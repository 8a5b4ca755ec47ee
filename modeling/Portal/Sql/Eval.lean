import Portal.Sql.Tables
import Portal.Sql.Functions
import Portal.Clock
/-! Running queries. A query reads rows from its sources, keeps those its condition holds
for, groups them when it aggregates, computes its result columns, and orders and cuts the
result. Before any row is read, every name in the query is looked up, so that a missing
table, column or function is reported whether or not there are rows. A column is looked
up in the query's own sources first and then in those of the queries around it; a name
that two sources share must be qualified. A result column is named by its asName, else by
the column it shows, else by the text of its expression. -/
namespace Portal
namespace Sql

structure Col where
  name : String
  affinity : Affinity := .none
  collation : Option Collation := none
  declType : String := ""
  hidden : Bool := false
  deriving Inhabited

structure Binding where
  name : String
  cols : List Col
  rowid : Bool := false
  rowidCol : Option Nat := none
  deriving Inhabited

structure Slot where
  binding : Binding
  rowid : Option Int := none
  values : List Datum
  deriving Inhabited

abbrev Scope := List Slot

structure ResultCol where
  name : String
  declType : String := ""
  affinity : Affinity := .none
  collation : Option Collation := none
  deriving Inhabited

structure Rel where
  cols : List ResultCol
  rows : List (List Datum)
  deriving Inhabited

structure Env where
  db : Db
  params : List Datum
  clock : Moment
  outer : List Scope := []
  aliases : List (String × Expr) := []
  group : Option (List Scope) := none

def Binding.nullSlot (b : Binding) : Slot := { binding := b, values := b.cols.map fun _ => .null }

def isRowidName (n : String) : Bool := ["ROWID", "OID", "_ROWID_"].contains n.toUpper

def findIn (scope : Scope) (table : Option String) (name : String) : List (Datum × Col) :=
  scope.flatMap fun s =>
    if !(table.map (sameName s.binding.name)).getD true then [] else
    match s.binding.cols.findIdx? (fun c => sameName c.name name && (table.isSome || !c.hidden)) with
    | some i => [(s.values.getD i .null, s.binding.cols.getD i default)]
    | none =>
      if s.binding.rowid && isRowidName name then
        let col : Col := match s.binding.rowidCol with
          | some i => s.binding.cols.getD i default
          | none => { name := "rowid", affinity := .integer }
        [((s.rowid.map Datum.int).getD .null, col)]
      else []

def columnText (table : Option String) (name : String) : String :=
  match table with
  | some t => t ++ "." ++ name
  | none => name

def resolve (env : Env) (scope : Scope) (table : Option String) (name : String) : Run (Option (Datum × Col)) :=
  let rec go : List Scope → Run (Option (Datum × Col))
    | [] => pure none
    | s :: rest =>
      match findIn s table name with
      | [] => go rest
      | [hit] => pure (some hit)
      | _ => operational ("ambiguous column name: " ++ columnText table name)
  go (scope :: env.outer)

def sideOf (env : Env) (scope : Scope) : Expr → Side
  | .column t n _ => match resolve env scope t n with
    | .ok (some (_, c)) => { affinity := c.affinity, declared := c.collation }
    | _ => {}
  | .cast _ ty => { affinity := Affinity.ofType ty }
  | .collate e c => { sideOf env scope e with explicit := Collation.ofName? c }
  | _ => {}

def collationOf (env : Env) (scope : Scope) (e : Expr) : Collation :=
  let s := sideOf env scope e
  (s.explicit <|> s.declared).getD .binary

def hasAggregate : Expr → Bool
  | .call n _ args => isAggregateCall n args.length || anyAgg args
  | .callStar n => n.toUpper == "COUNT"
  | .unary _ e | .isNull e _ | .cast e _ | .collate e _ | .inQuery e _ _ => hasAggregate e
  | .binary _ a b => hasAggregate a || hasAggregate b
  | .between e a b _ => hasAggregate e || hasAggregate a || hasAggregate b
  | .inList e items _ => hasAggregate e || anyAgg items
  | .pattern _ e p esc _ => hasAggregate e || hasAggregate p || (match esc with
    | some x => hasAggregate x
    | none => false)
  | .case o arms d => (match o with
      | some x => hasAggregate x
      | none => false) || anyArms arms || (match d with
      | some x => hasAggregate x
      | none => false)
  | _ => false
where
  anyAgg : List Expr → Bool
    | [] => false
    | e :: es => hasAggregate e || anyAgg es
  anyArms : List (Expr × Expr) → Bool
    | [] => false
    | (a, b) :: rest => hasAggregate a || hasAggregate b || anyArms rest

def ordinal (n : Nat) : String :=
  let suffix := if n % 100 ≥ 11 && n % 100 ≤ 13 then "th"
    else match n % 10 with
      | 1 => "st"
      | 2 => "nd"
      | 3 => "rd"
      | _ => "th"
  toString n ++ suffix

def wholeNumber (d : Datum) : Run Int :=
  match d.numericForCompare.integral with
  | .int n => pure n
  | _ => integrity "datatype mismatch"

def keyLess (dirs : List (Bool × Option Bool × Collation)) (a b : List Datum) : Bool :=
  let rec go : List (Bool × Option Bool × Collation) → List Datum → List Datum → Bool
    | (desc, nullsFirst, coll) :: ds, x :: xs, y :: ys =>
      let nullFirst := nullsFirst.getD (!desc)
      match x, y with
      | .null, .null => go ds xs ys
      | .null, _ => nullFirst
      | _, .null => !nullFirst
      | _, _ =>
        match Datum.order coll x y with
        | .eq => go ds xs ys
        | .lt => !desc
        | .gt => desc
    | _, _, _ => false
  go dirs a b

def distinctRows {α : Type} (key : α → List Datum) (rows : List α) : List α :=
  rows.foldl (fun acc r =>
    if acc.any (fun s => (key s).length == (key r).length &&
        ((key s).zip (key r)).all fun (x, y) => sameSides {} {} x y) then acc else acc ++ [r]) []

def sameRow (a b : List Datum) : Bool :=
  a.length == b.length && (a.zip b).all fun (x, y) => sameSides {} {} x y

def schemaRows (db : Db) : List (Int × List Datum) :=
  let ts := catalog db
  (ts.zip (List.range ts.length)).map fun (t, i) =>
    ((i + 1 : Nat), [.text "table", .text t.name, .text t.name, .int (i + 2), .text t.schema])

def schemaBinding (name : String) : Binding :=
  { name, rowid := true,
    cols := [{ name := "type", declType := "text", affinity := .text }, { name := "name", declType := "text", affinity := .text },
      { name := "tbl_name", declType := "text", affinity := .text },
      { name := "rootpage", declType := "int", affinity := .integer }, { name := "sql", declType := "text", affinity := .text }] }

def tableBinding (t : TableInfo) (asName : Option String) : Binding :=
  let cols := t.columns.map fun (c : ColumnDef) =>
    ({ name := c.name, affinity := Affinity.ofType c.type, collation := c.collation.bind Collation.ofName?,
       declType := c.type } : Col)
  { name := asName.getD t.name, cols, rowid := true, rowidCol := t.rowidColumn? }

def lookupTable (db : Db) (schema : Option String) (name : String) : Run (Binding × List (Int × List Datum)) := do
  let qualified := match schema with
    | some s => s ++ "." ++ name
    | none => name
  match schema with
  | some s => if !(sameName s "main") then operational ("no such table: " ++ qualified)
  | none => pure ()
  if sameName name "sqlite_master" || sameName name "sqlite_schema" then
    return (schemaBinding name, schemaRows db)
  match findTable? db name with
  | some t => return (tableBinding t none, rowsOf db t)
  | none => operational ("no such table: " ++ qualified)

def expandItems (bindings : List Binding) (items : List Item) : Run (List (Expr × Option String × String)) := do
  let mut out := []
  for it in items do
    match it with
    | .all =>
      if bindings.isEmpty then operational "no tables specified"
      for b in bindings do
        for c in b.cols do
          if !c.hidden then out := out ++ [(.column (some b.name) c.name false, none, c.name)]
    | .allOf t =>
      match bindings.find? (sameName ·.name t) with
      | some b => for c in b.cols do out := out ++ [(.column (some b.name) c.name false, none, c.name)]
      | none => operational ("no such table: " ++ t)
    | .expr e a text => out := out ++ [(e, a, text)]
  return out

def aggregateOf (name : String) (vals : List Datum) (coll : Collation) (sep : String) : Datum :=
  match name with
  | "COUNT" => .int vals.length
  | "SUM" =>
    if vals.isEmpty then .null
    else if vals.all (fun v => match v with
        | .int _ => true
        | _ => false) then
      Datum.ofInt (vals.foldl (fun s v => s + v.toInt) 0)
    else .real (vals.foldl (fun s v => (s.add? v.toReal).getD s) Binary64.zero)
  | "TOTAL" => .real (vals.foldl (fun s v => (s.add? v.toReal).getD s) Binary64.zero)
  | "AVG" =>
    if vals.isEmpty then .null
    else
      let total := vals.foldl (fun s v => (s.add? v.toReal).getD s) Binary64.zero
      match total.div? (Binary64.ofInt vals.length) with
      | some x => .real x
      | none => .null
  | "MIN" => (vals.foldl (fun (acc : Option Datum) v => match acc with
      | none => some v
      | some a => if Datum.order coll v a == .lt then some v else some a) none).getD .null
  | "MAX" => (vals.foldl (fun (acc : Option Datum) v => match acc with
      | none => some v
      | some a => if Datum.order coll v a == .gt then some v else some a) none).getD .null
  | "GROUP_CONCAT" => if vals.isEmpty then .null else .text (sep.intercalate (vals.map (·.textOr "")))
  | _ => .null

def resultColOf (env : Env) (scope : Scope) (e : Expr) (asName : Option String) (text : String) : ResultCol :=
  let side := sideOf env scope e
  let base : ResultCol :=
    { name := asName.getD text, affinity := side.affinity, collation := side.explicit <|> side.declared }
  match e with
  | .column t n _ => match resolve env scope t n with
    | .ok (some (_, c)) => { base with name := asName.getD c.name, declType := c.declType }
    | _ => base
  | _ => base

mutual

def checkExpr (fuel : Nat) (env : Env) (scope : Scope) (aggOk : Bool) (e : Expr) : Run Unit :=
  match fuel with
  | 0 => operational "expression too deep"
  | fuel + 1 =>
    match e with
    | .lit _ | .param _ | .now _ => pure ()
    | .column t n quoted => do
      match ← resolve env scope t n with
      | some _ => pure ()
      | none =>
        if t.isNone && (env.aliases.any (sameName ·.1 n) || quoted || ["TRUE", "FALSE"].contains n.toUpper) then pure ()
        else operational ("no such column: " ++ columnText t n)
    | .unary _ a | .isNull a _ | .cast a _ | .collate a _ => checkExpr fuel env scope aggOk a
    | .binary _ a b => do checkExpr fuel env scope aggOk a; checkExpr fuel env scope aggOk b
    | .between a b c _ => do
      checkExpr fuel env scope aggOk a; checkExpr fuel env scope aggOk b; checkExpr fuel env scope aggOk c
    | .inList a items _ => do
      checkExpr fuel env scope aggOk a
      for i in items do checkExpr fuel env scope aggOk i
    | .inQuery a q _ => do
      checkExpr fuel env scope aggOk a
      discard (checkQuery fuel { env with outer := scope :: env.outer, aliases := [] } q)
    | .exists q | .scalar q => do
      let cols ← checkQuery fuel { env with outer := scope :: env.outer, aliases := [] } q
      match e with
      | .scalar _ => if cols > 1 then operational ("sub-select returns " ++ toString cols ++ " columns - expected 1")
      | _ => pure ()
    | .pattern op a p esc _ => do
      if op == .regexp then operational "no such function: REGEXP"
      if op == .matchText then operational "unable to use function MATCH in the requested context"
      checkExpr fuel env scope aggOk a; checkExpr fuel env scope aggOk p
      match esc with
      | some x => checkExpr fuel env scope aggOk x
      | none => pure ()
    | .case o arms d => do
      match o with
      | some x => checkExpr fuel env scope aggOk x
      | none => pure ()
      for (a, b) in arms do
        checkExpr fuel env scope aggOk a; checkExpr fuel env scope aggOk b
      match d with
      | some x => checkExpr fuel env scope aggOk x
      | none => pure ()
    | .callStar n =>
      if n.toUpper == "COUNT" then
        if aggOk then pure () else operational ("misuse of aggregate function " ++ n ++ "()")
      else if (scalarArity n.toUpper).isSome || (aggregateArity n.toUpper).isSome then
        operational ("wrong number of arguments to function " ++ n ++ "()")
      else operational ("no such function: " ++ n)
    | .call n _ args => do
      let up := n.toUpper
      if isAggregateCall n args.length then
        if !aggOk then operational ("misuse of aggregate function " ++ n ++ "()")
        for a in args do checkExpr fuel env scope false a
      else
        match scalarArity up with
        | some (lo, hi) =>
          if args.length < lo || (hi.map fun h => decide (args.length > h)).getD false then
            operational ("wrong number of arguments to function " ++ n ++ "()")
          for a in args do checkExpr fuel env scope aggOk a
        | none =>
          if (aggregateArity up).isSome then operational ("wrong number of arguments to function " ++ n ++ "()")
          else operational ("no such function: " ++ n)

def checkQuery (fuel : Nat) (env : Env) (q : Query) : Run Nat :=
  match fuel with
  | 0 => operational "query too deep"
  | fuel + 1 => do
    let rel ← runQuery fuel env q
    return rel.cols.length

def eval (fuel : Nat) (env : Env) (scope : Scope) (e : Expr) : Run Datum :=
  match fuel with
  | 0 => operational "expression too deep"
  | fuel + 1 =>
    match e with
    | .lit d => pure d
    | .param i => pure (env.params.getD (i - 1) .null)
    | .now w =>
      let f := env.clock.fields
      let date := Moment.dateText f
      let time := Text.pad 2 f.hour ++ ":" ++ Text.pad 2 f.minute ++ ":" ++ Text.pad 2 f.second
      pure (.text (match w with
        | "CURRENT_DATE" => date
        | "CURRENT_TIME" => time
        | _ => date ++ " " ++ time))
    | .column t n quoted => do
      match ← resolve env scope t n with
      | some (d, _) => pure d
      | none =>
        match t, env.aliases.find? (sameName ·.1 n) with
        | none, some (_, ae) => eval fuel { env with aliases := [] } scope ae
        | _, _ =>
          if t.isNone && quoted then pure (.text n)
          else if t.isNone && n.toUpper == "TRUE" then pure (.int 1)
          else if t.isNone && n.toUpper == "FALSE" then pure (.int 0)
          else operational ("no such column: " ++ columnText t n)
    | .unary op a => do
      let v ← eval fuel env scope a
      match op with
      | .pos => pure v
      | .neg => pure (match v.toNumber with
        | .int n => Datum.ofInt (-n)
        | .real x => .real x.neg
        | _ => .null)
      | .bitNot => pure (if v.isNull then .null else .int (-v.toInt - 1))
      | .not => pure (Datum.ofTruth (v.truth?.map (!·)))
    | .binary op a b => do
      match op with
      | .and =>
        let x ← eval fuel env scope a
        if x.truth? == some false then return .int 0
        let y ← eval fuel env scope b
        return (match x.truth?, y.truth? with
          | _, some false => .int 0
          | some true, some true => .int 1
          | _, _ => .null)
      | .or =>
        let x ← eval fuel env scope a
        if x.truth? == some true then return .int 1
        let y ← eval fuel env scope b
        return (match x.truth?, y.truth? with
          | _, some true => .int 1
          | some false, some false => .int 0
          | _, _ => .null)
      | _ =>
      let x ← eval fuel env scope a
      let y ← eval fuel env scope b
      let l := sideOf env scope a
      let r := sideOf env scope b
      let cmp (test : Ordering → Bool) : Datum :=
        match compareSides l r x y with
        | some o => Datum.ofBool (test o)
        | none => .null
      pure (match op with
        | .eq => cmp (· == .eq)
        | .ne => cmp (· != .eq)
        | .lt => cmp (· == .lt)
        | .le => cmp (· != .gt)
        | .gt => cmp (· == .gt)
        | .ge => cmp (· != .lt)
        | .is => Datum.ofBool (sameSides l r x y)
        | .isNot => Datum.ofBool (!sameSides l r x y)
        | .add => arith .add x y
        | .sub => arith .sub x y
        | .mul => arith .mul x y
        | .div => arith .div x y
        | .rem => arith .rem x y
        | .concat => concatText x y
        | .bitAnd => bitOp "&" x y
        | .bitOr => bitOp "|" x y
        | .shl => bitOp "<<" x y
        | .shr => bitOp ">>" x y
        | _ => .null)
    | .isNull a negated => do
      let v ← eval fuel env scope a
      pure (Datum.ofBool (v.isNull != negated))
    | .between a lo hi negated => do
      let x ← eval fuel env scope a
      let l ← eval fuel env scope lo
      let h ← eval fuel env scope hi
      let s := sideOf env scope a
      let ge := (compareSides s (sideOf env scope lo) x l).map (· != .lt)
      let le := (compareSides s (sideOf env scope hi) x h).map (· != .gt)
      let both : Option Bool := match ge, le with
        | some false, _ => some false
        | _, some false => some false
        | some true, some true => some true
        | _, _ => none
      pure (Datum.ofTruth (both.map (· != negated)))
    | .inList a items negated => do
      let x ← eval fuel env scope a
      if items.isEmpty then return .int (if negated then 1 else 0)
      if x.isNull then return .null
      let s := sideOf env scope a
      let mut sawNull := false
      let mut found := false
      for i in items do
        let v ← eval fuel env scope i
        match compareSides s (sideOf env scope i) x v with
        | some .eq => found := true
        | none => sawNull := true
        | _ => pure ()
      if found then return .int (if negated then 0 else 1)
      if sawNull then return .null
      return .int (if negated then 1 else 0)
    | .inQuery a q negated => do
      let x ← eval fuel env scope a
      let rel ← runQuery fuel { env with outer := scope :: env.outer, aliases := [], group := none } q
      if rel.cols.length != 1 then operational ("sub-select returns " ++ toString rel.cols.length ++ " columns - expected 1")
      if rel.rows.isEmpty then return .int (if negated then 1 else 0)
      if x.isNull then return .null
      let s := sideOf env scope a
      let r : Side := { affinity := (rel.cols.head?.map (·.affinity)).getD .none }
      let vals := rel.rows.map (·.headD .null)
      if vals.any (fun v => compareSides s r x v == some .eq) then return .int (if negated then 0 else 1)
      if vals.any (·.isNull) then return .null
      return .int (if negated then 1 else 0)
    | .exists q => do
      let rel ← runQuery fuel { env with outer := scope :: env.outer, aliases := [], group := none } q
      pure (Datum.ofBool !rel.rows.isEmpty)
    | .scalar q => do
      let rel ← runQuery fuel { env with outer := scope :: env.outer, aliases := [], group := none } q
      if rel.cols.length != 1 then operational ("sub-select returns " ++ toString rel.cols.length ++ " columns - expected 1")
      pure ((rel.rows.head?.bind List.head?).getD .null)
    | .pattern op a p esc negated => do
      let x ← eval fuel env scope a
      let pat ← eval fuel env scope p
      let escape ← match esc with
        | some ee => some <$> eval fuel env scope ee
        | none => pure none
      let escChar ← match escape with
        | some d =>
          let cs := (d.textOr "").toList
          if cs.length != 1 then operational "ESCAPE expression must be a single character"
          pure cs.head?
        | none => pure none
      if x.isNull || pat.isNull then return .null
      let m := match op with
        | .glob => globMatch (pat.textOr "").toList (x.textOr "").toList
        | _ => likeMatch escChar (pat.textOr "").toList (x.textOr "").toList
      pure (Datum.ofBool (m != negated))
    | .case o arms d => do
      let base ← match o with
        | some x => some <$> eval fuel env scope x
        | none => pure none
      for (w, t) in arms do
        let c ← eval fuel env scope w
        let hit : Bool := match base, o with
          | some b, some x => compareSides (sideOf env scope x) (sideOf env scope w) b c == some .eq
          | _, _ => c.truth? == some true
        if hit then return ← eval fuel env scope t
      match d with
      | some x => eval fuel env scope x
      | none => pure .null
    | .cast a ty => do
      let v ← eval fuel env scope a
      pure (v.cast (Affinity.ofType ty))
    | .collate a _ => eval fuel env scope a
    | .callStar _ => do
      match env.group with
      | some rows => pure (.int rows.length)
      | none => operational "misuse of aggregate function count()"
    | .call n distinct args => do
      let up := n.toUpper
      if isAggregateCall n args.length then
        match env.group with
        | none => operational ("misuse of aggregate function " ++ n ++ "()")
        | some rows =>
          let inner : Env := { env with group := none }
          let mut vals : List Datum := []
          for r in rows do
            vals := vals ++ [← eval fuel inner r (args.headD default)]
          let sep ← match args with
            | [_, s] => do
              let sv ← eval fuel inner (rows.getLast?.getD []) s
              pure (sv.textOr "")
            | _ => pure ","
          let present := vals.filter (!·.isNull)
          let present := if distinct then distinctRows (fun (d : Datum) => [d]) present else present
          let coll := collationOf env (rows.headD []) (args.headD default)
          pure (aggregateOf up present coll sep)
      else
        let vals ← args.mapM (eval fuel env scope)
        scalar up vals

def runQuery (fuel : Nat) (env : Env) (q : Query) : Run Rel :=
  match fuel with
  | 0 => operational "query too deep"
  | fuel + 1 =>
    match q with
    | .mk first [] order limit offset => do
      let (cols, rows) ← runCore fuel env first order
      let rows := if order.isEmpty then rows else
        let dirs := order.zip (List.range order.length) |>.map fun ((_, desc, nulls), i) =>
          (desc, nulls, ((rows.head?.map (·.2.2)).bind (·[i]?)).getD .binary)
        (rows.mergeSort fun a b => !keyLess dirs b.2.1 a.2.1)
      cutRows fuel env cols (rows.map (·.1)) limit offset
    | .mk first rest order limit offset => do
      let (cols, firstRows) ← runCore fuel env first []
      let mut rows := firstRows.map (·.1)
      for (op, c) in rest do
        let (cs, more) ← runCore fuel env c []
        if cs.length != cols.length then
          operational ("SELECTs to the left and right of " ++ (match op with
            | .union => "UNION"
            | .unionAll => "UNION ALL"
            | .intersect => "INTERSECT"
            | .except => "EXCEPT") ++ " do not have the same number of result columns")
        let more := more.map (·.1)
        let sorted (xs : List (List Datum)) : List (List Datum) :=
          xs.mergeSort fun a b => !keyLess (cols.map fun _ => (false, none, Collation.binary)) b a
        rows := match op with
          | .unionAll => rows ++ more
          | .union => sorted (distinctRows id (rows ++ more))
          | .intersect => sorted (distinctRows id (rows.filter fun r => more.any (sameRow r)))
          | .except => sorted (distinctRows id (rows.filter fun r => !more.any (sameRow r)))
      let mut keys : List (Nat × Bool × Option Bool) := []
      for ((e, desc, nulls), i) in order.zip (List.range order.length) do
        let idx : Option Nat := match e with
          | .lit (.int k) => if k ≥ 1 && k ≤ cols.length then some (k.toNat - 1) else none
          | .column none n _ => cols.findIdx? (sameName ·.name n)
          | _ => none
        match idx, e with
        | some k, _ => keys := keys ++ [(k, desc, nulls)]
        | none, .lit (.int _) =>
          operational (ordinal (i + 1) ++ " ORDER BY term out of range - should be between 1 and " ++
            toString cols.length)
        | none, _ => operational (ordinal (i + 1) ++ " ORDER BY term does not match any column in the result set")
      let dirs := keys.map fun (_, desc, nulls) => (desc, nulls, Collation.binary)
      let keyOf (r : List Datum) : List Datum := keys.map fun (k, _, _) => r.getD k .null
      let ordered := if keys.isEmpty then rows else rows.mergeSort fun a b => !keyLess dirs (keyOf b) (keyOf a)
      cutRows fuel env cols ordered limit offset

def cutRows (fuel : Nat) (env : Env) (cols : List ResultCol) (rows : List (List Datum))
    (limit offset : Option Expr) : Run Rel :=
  match fuel with
  | 0 => operational "query too deep"
  | fuel + 1 => do
    let lim ← match limit with
      | some e => some <$> (wholeNumber (← eval fuel { env with aliases := [] } [] e))
      | none => pure none
    let off ← match offset with
      | some e => wholeNumber (← eval fuel { env with aliases := [] } [] e)
      | none => pure 0
    let rows := rows.drop (max 0 off).toNat
    let rows := match lim with
      | some n => if n < 0 then rows else rows.take n.toNat
      | none => rows
    return { cols, rows }

def runCore (fuel : Nat) (env : Env) (c : Core) (order : List (Expr × Bool × Option Bool)) :
    Run (List ResultCol × List (List Datum × List Datum × List Collation)) :=
  match fuel with
  | 0 => operational "query too deep"
  | fuel + 1 =>
    match c with
    | .values rows => do
      let width := (rows.head?.map List.length).getD 0
      if rows.any (·.length != width) then operational "all VALUES must have the same number of terms"
      let cols := (List.range width).map fun i => ({ name := "column" ++ toString (i + 1) } : ResultCol)
      let mut computed : List (List Datum) := []
      for r in rows do
        let vals ← r.mapM (eval fuel { env with aliases := [] } [])
        computed := computed ++ [vals]
      for (e, _, _) in order do checkOrderTerm e width
      let out ← computed.mapM fun vals => do
        let keys ← order.mapM fun (e, _, _) => orderValue e vals
        pure (vals, keys, order.map fun _ => Collation.binary)
      return (cols, out)
    | .select distinct items src filter groups having => do
      let (bindings, sourceScopes) ← match src with
        | some s => runSource fuel env s
        | none => pure ([], [[]])
      let nullScope : Scope := bindings.map Binding.nullSlot
      let shown ← expandItems bindings items
      let aliases := shown.filterMap fun (e, a, _) => a.map (·, e)
      -- names first, in the order the database looks them up
      for (e, _, _) in shown do checkExpr fuel env nullScope true e
      let aggregated := !groups.isEmpty || shown.any (hasAggregate ·.1) || (having.map hasAggregate).getD false ||
        order.any (hasAggregate ·.1)
      match having with
      | some h =>
        if !aggregated then operational "HAVING clause on a non-aggregate query"
        checkExpr fuel { env with aliases } nullScope true h
      | none => pure ()
      match filter with
      | some f => checkExpr fuel { env with aliases } nullScope false f
      | none => pure ()
      let groupExprs ← groups.mapM fun g => match g with
        | .lit (.int k) =>
          if k ≥ 1 && k ≤ shown.length then pure ((shown.getD (k.toNat - 1) default).1)
          else operational ("GROUP BY term out of range - should be between 1 and " ++ toString shown.length)
        | _ => pure g
      for g in groupExprs do
        if hasAggregate g then operational "aggregate functions are not allowed in the GROUP BY clause"
        checkExpr fuel { env with aliases } nullScope false g
      for (e, _, _) in order do
        match e with
        | .lit (.int k) =>
          if k < 1 || k > shown.length then
            operational ("1st ORDER BY term out of range - should be between 1 and " ++ toString shown.length)
        | .column none n _ => if !(aliases.any (sameName ·.1 n)) then checkExpr fuel { env with aliases } nullScope aggregated e
        | _ => checkExpr fuel { env with aliases } nullScope aggregated e
      let cols := shown.map fun (e, a, text) => resultColOf env nullScope e a text
      -- the rows the condition holds for
      let mut kept : List Scope := []
      for s in sourceScopes do
        match filter with
        | some f =>
          let v ← eval fuel { env with aliases } s f
          if v.truth? == some true then kept := kept ++ [s]
        | none => kept := kept ++ [s]
      let coll := order.map fun (e, _, _) => collationOf env nullScope e
      let orderKey (genv : Env) (s : Scope) (vals : List Datum) : Run (List Datum) :=
        order.mapM fun (e, _, _) => match e with
          | .lit (.int k) => pure (vals.getD (k.toNat - 1) .null)
          | .column none n _ =>
            match shown.findIdx? (fun (_, a, _) => (a.map (sameName · n)).getD false) with
            | some i => pure (vals.getD i .null)
            | none => eval fuel { genv with aliases } s e
          | _ => eval fuel { genv with aliases } s e
      let mut out : List (List Datum × List Datum × List Collation) := []
      if aggregated then
        let groupsOf ← groupRows fuel env groupExprs kept
        let groupsOf := if groupExprs.isEmpty && groupsOf.isEmpty then [[]] else groupsOf
        for g in groupsOf do
          let genv : Env := { env with group := some g }
          let rep := g.getLast?.getD nullScope
          let keep ← match having with
            | some h => do pure ((← eval fuel { genv with aliases } rep h).truth? == some true)
            | none => pure true
          if keep then
            let vals ← shown.mapM fun (e, _, _) => eval fuel genv rep e
            out := out ++ [(vals, ← orderKey genv rep vals, coll)]
      else
        for s in kept do
          let vals ← shown.mapM fun (e, _, _) => eval fuel env s e
          out := out ++ [(vals, ← orderKey env s vals, coll)]
      return (cols, if distinct then distinctRows (·.1) out else out)

def groupRows (fuel : Nat) (env : Env) (exprs : List Expr) (rows : List Scope) : Run (List (List Scope)) :=
  match fuel with
  | 0 => operational "query too deep"
  | fuel + 1 => do
    if exprs.isEmpty then return (if rows.isEmpty then [] else [rows])
    let keyed ← rows.mapM fun s => do pure (← exprs.mapM (eval fuel env s), s)
    let dirs := exprs.map fun e => (false, (none : Option Bool), collationOf env (rows.headD []) e)
    let sorted := keyed.mergeSort fun a b => !keyLess dirs b.1 a.1
    let mut groups : List (List Datum × List Scope) := []
    for (k, s) in sorted do
      match groups.getLast? with
      | some (gk, members) =>
        if !keyLess dirs gk k && !keyLess dirs k gk then
          groups := groups.dropLast ++ [(gk, members ++ [s])]
        else groups := groups ++ [(k, [s])]
      | none => groups := [(k, [s])]
    return groups.map (·.2)

def runSource (fuel : Nat) (env : Env) (src : Source) : Run (List Binding × List Scope) :=
  match fuel with
  | 0 => operational "query too deep"
  | fuel + 1 =>
    match src with
    | .table schema name asName => do
      let (b, rows) ← lookupTable env.db schema name
      let b := { b with name := asName.getD b.name }
      return ([b], rows.map fun (k, vs) => [{ binding := b, rowid := some k, values := vs }])
    | .query q asName => do
      let rel ← runQuery fuel { env with aliases := [], group := none } q
      let b : Binding := { name := asName.getD "", cols := rel.cols.map fun c =>
        { name := c.name, affinity := c.affinity, collation := c.collation, declType := c.declType } }
      return ([b], rel.rows.map fun vs => [{ binding := b, values := vs }])
    | .join kind natural left right cond usingCols => do
      let (lb, lrows) ← runSource fuel env left
      let (rb, rrows) ← runSource fuel env right
      let common := if natural then
          (lb.flatMap (·.cols)).filterMap fun c =>
            if !c.hidden && rb.any (·.cols.any (sameName ·.name c.name)) then some c.name else none
        else usingCols
      for n in usingCols do
        if !(lb.any (·.cols.any (sameName ·.name n))) || !(rb.any (·.cols.any (sameName ·.name n))) then
          operational ("cannot join using column " ++ n ++ " - column not present in both tables")
      let hide (c : Col) : Col := if common.any (sameName · c.name) then { c with hidden := true } else c
      let rb := rb.map fun b => { b with cols := b.cols.map hide }
      let nullLeft : Scope := lb.map Binding.nullSlot
      let nullRight : Scope := rb.map Binding.nullSlot
      match cond with
      | some e => checkExpr fuel env (nullLeft ++ nullRight) false e
      | none => pure ()
      let rrows := rrows.map fun s => s.map fun slot =>
        { slot with binding := (rb.find? (·.name == slot.binding.name)).getD slot.binding }
      let joined (l r : Scope) : Run Bool := do
        let scope := l ++ r
        for n in common do
          let a := ((findIn l none n).head?.map (·.1)).getD .null
          let b := ((findIn r (some ((r.head?.map (·.binding.name)).getD "")) n).head?.map (·.1)).getD .null
          if compareSides {} {} a b != some .eq then return false
        match cond with
        | some e => return (← eval fuel env scope e).truth? == some true
        | none => return true
      let mut out : List Scope := []
      let mut usedRight : List Nat := []
      for l in lrows do
        let mut hit := false
        for (r, j) in rrows.zip (List.range rrows.length) do
          if ← joined l r then
            out := out ++ [l ++ r]
            hit := true
            usedRight := j :: usedRight
        if !hit && (kind == .left || kind == .full) then out := out ++ [l ++ nullRight]
      if kind == .right || kind == .full then
        for (r, j) in rrows.zip (List.range rrows.length) do
          if !usedRight.contains j then out := out ++ [nullLeft ++ r]
      return (lb ++ rb, out)

def checkOrderTerm (e : Expr) (width : Nat) : Run Unit :=
  match e with
  | .lit (.int k) =>
    if k < 1 || k > width then
      operational ("1st ORDER BY term out of range - should be between 1 and " ++ toString width)
    else pure ()
  | _ => operational "1st ORDER BY term does not match any column in the result set"

def orderValue (e : Expr) (vals : List Datum) : Run Datum :=
  match e with
  | .lit (.int k) => pure (vals.getD (k.toNat - 1) .null)
  | _ => pure .null

end

end Sql
end Portal
