import Portal.Sql.Lexer
import Portal.Sql.Syntax
/-! Reading a statement from its tokens. Operators bind as the statement language says,
loosest first: `OR`; `AND`; `NOT`; equality, `IS`, `IN`, the pattern operators and
`BETWEEN`; the orderings; the bit operators; sums; products; concatenation; `COLLATE`; and
the signs last. A word the language reserves cannot name a table or a column unless it
is quoted; the words it gives a meaning only in some places stay names elsewhere. The
first token that cannot continue the statement is named in the error, and running out
of tokens is an incomplete input. After the statement and its semicolon only blanks and
comments may follow. -/
namespace Portal
namespace Sql

structure Reader where
  toks : List Token
  src : List Char
  params : Nat := 0
  names : List String := []
  lastStop : Nat := 0

abbrev P := StateT Reader (Except String)

namespace P

def spanText (src : List Char) (a b : Nat) : String := String.ofList ((src.drop a).take (b - a))

def peekToken : P (Option Token) := do return (← get).toks.head?

def peek : P (Option Tok) := do return (← get).toks.head?.map (·.tok)

def peek2 : P (Option Tok) := do return ((← get).toks.drop 1).head?.map (·.tok)

def advance : P Unit := modify fun r =>
  match r.toks with
  | t :: rest => { r with toks := rest, lastStop := t.stop }
  | [] => r

def fail {α : Type} : P α := do
  let r ← get
  match r.toks with
  | [] => throw "incomplete input"
  | t :: _ => match t.tok with
    | .bad msg => throw msg
    | _ => throw ("near \"" ++ spanText r.src t.start t.stop ++ "\": syntax error")

def isWord (w : String) : P Bool := do return ((← peek).map (·.isWord w)).getD false

def isSym (s : String) : P Bool := do return ((← peek).map (·.isSym s)).getD false

def acceptWord (w : String) : P Bool := do
  if ← isWord w then advance; return true else return false

def acceptSym (s : String) : P Bool := do
  if ← isSym s then advance; return true else return false

def expectWord (w : String) : P Unit := do if !(← acceptWord w) then fail

def expectSym (s : String) : P Unit := do if !(← acceptSym s) then fail

def here : P Nat := do return ((← peekToken).map (·.start)).getD (← get).src.length

def textFrom (start : Nat) : P String := do
  let r ← get
  return spanText r.src start r.lastStop

def name? : P (Option String) := do
  match ← peek with
  | some (.word w) =>
    if isNameWord w || joinWords.contains w.toUpper then advance; return some w else return none
  | some (.name s _) => advance; return some s
  | some (.text s) => advance; return some s
  | _ => return none

def name : P String := do
  match ← name? with
  | some n => return n
  | none => fail

def bareAlias? : P (Option String) := do
  match ← peek with
  | some (.word w) => if isNameWord w then advance; return some w else return none
  | some (.name s _) => advance; return some s
  | some (.text s) => advance; return some s
  | _ => return none

def asName? : P (Option String) := do
  if ← acceptWord "AS" then return some (← name) else bareAlias?

def nameList : P (List String) := do
  expectSym "("
  let first ← name
  let mut names := [first]
  let mut go := true
  for _ in (← get).toks do
    if !go then break
    if ← acceptSym "," then names := names ++ [← name] else go := false
  expectSym ")"
  return names

def paramIndex (t : Tok) : P Nat := do
  let r ← get
  match t with
  | .param none => set { r with params := r.params + 1 }; return r.params + 1
  | .param (some n) => set { r with params := max r.params n }; return n
  | .named s =>
    match r.names.idxOf? s with
    | some i => return i + 1
    | none => set { r with params := r.params + 1, names := r.names ++ [s] }; return r.params + 1
  | _ => fail

def typeName : P String := do
  let start ← here
  let mut any := false
  for _ in (← get).toks do
    match ← peek with
    | some (.word w) => if isNameWord w then advance; any := true else break
    | some (.name _ _) => advance; any := true
    | some (.text _) => advance; any := true
    | _ => break
  if !any then fail
  if ← acceptSym "(" then
    for _ in [0, 1] do
      discard <| acceptSym "+" <||> acceptSym "-"
      match ← peek with
      | some (.int _) | some (.real _) => advance
      | some (.word w) => if isNameWord w then advance else fail
      | _ => fail
      if !(← acceptSym ",") then break
    expectSym ")"
  textFrom start

def startsQuery : P Bool := do return (← isWord "SELECT") || (← isWord "VALUES")

end P

open P

def equalityWords : List String := ["IS", "IN", "LIKE", "GLOB", "REGEXP", "MATCH", "BETWEEN", "ISNULL", "NOTNULL", "NOT"]

def patternOf? (w : String) : Option PatternOp :=
  match w.toUpper with
  | "LIKE" => some .like
  | "GLOB" => some .glob
  | "REGEXP" => some .regexp
  | "MATCH" => some .matchText
  | _ => none

mutual

def expr (fuel : Nat) : P Expr :=
  match fuel with
  | 0 => fail
  | fuel + 1 => do
    let mut e ← andExpr fuel
    for _ in (← get).toks do
      if ← acceptWord "OR" then e := .binary .or e (← andExpr fuel) else break
    return e

def andExpr (fuel : Nat) : P Expr :=
  match fuel with
  | 0 => fail
  | fuel + 1 => do
    let mut e ← notExpr fuel
    for _ in (← get).toks do
      if ← acceptWord "AND" then e := .binary .and e (← notExpr fuel) else break
    return e

def notExpr (fuel : Nat) : P Expr :=
  match fuel with
  | 0 => fail
  | fuel + 1 => do
    if ← acceptWord "NOT" then return .unary .not (← notExpr fuel)
    equality fuel

def equality (fuel : Nat) : P Expr :=
  match fuel with
  | 0 => fail
  | fuel + 1 => do
    let mut e ← comparison fuel
    for _ in (← get).toks do
      if (← acceptSym "=") || (← acceptSym "==") then e := .binary .eq e (← comparison fuel)
      else if (← acceptSym "!=") || (← acceptSym "<>") then e := .binary .ne e (← comparison fuel)
      else if ← acceptWord "ISNULL" then e := .isNull e false
      else if ← acceptWord "NOTNULL" then e := .isNull e true
      else if ← acceptWord "IS" then
        let negated ← acceptWord "NOT"
        if ← acceptWord "DISTINCT" then
          expectWord "FROM"
          e := .binary (if negated then .is else .isNot) e (← comparison fuel)
        else e := .binary (if negated then .isNot else .is) e (← comparison fuel)
      else
        let negated ← if (← isWord "NOT") && !((← peek2).map (·.isWord "EXISTS")).getD false then
            advance; pure true
          else pure false
        if negated && (← acceptWord "NULL") then e := .isNull e true
        else if ← acceptWord "IN" then e ← inTail fuel e negated
        else if ← acceptWord "BETWEEN" then
          let lo ← comparison fuel
          expectWord "AND"
          let hi ← comparison fuel
          e := .between e lo hi negated
        else
          match ← peek with
          | some (.word w) =>
            match patternOf? w with
            | some op =>
              advance
              let pat ← comparison fuel
              let esc ← if ← acceptWord "ESCAPE" then some <$> comparison fuel else pure none
              e := .pattern op e pat esc negated
            | none => if negated then fail else break
          | _ => if negated then fail else break
    return e

def inTail (fuel : Nat) (e : Expr) (negated : Bool) : P Expr :=
  match fuel with
  | 0 => fail
  | fuel + 1 => do
    expectSym "("
    if ← startsQuery then
      let q ← query fuel
      expectSym ")"
      return .inQuery e q negated
    if ← acceptSym ")" then return .inList e [] negated
    let items ← exprList fuel
    expectSym ")"
    return .inList e items negated

def comparison (fuel : Nat) : P Expr :=
  match fuel with
  | 0 => fail
  | fuel + 1 => do
    let mut e ← bitwise fuel
    for _ in (← get).toks do
      if ← acceptSym "<" then e := .binary .lt e (← bitwise fuel)
      else if ← acceptSym "<=" then e := .binary .le e (← bitwise fuel)
      else if ← acceptSym ">" then e := .binary .gt e (← bitwise fuel)
      else if ← acceptSym ">=" then e := .binary .ge e (← bitwise fuel)
      else break
    return e

def bitwise (fuel : Nat) : P Expr :=
  match fuel with
  | 0 => fail
  | fuel + 1 => do
    let mut e ← additive fuel
    for _ in (← get).toks do
      if ← acceptSym "&" then e := .binary .bitAnd e (← additive fuel)
      else if ← acceptSym "|" then e := .binary .bitOr e (← additive fuel)
      else if ← acceptSym "<<" then e := .binary .shl e (← additive fuel)
      else if ← acceptSym ">>" then e := .binary .shr e (← additive fuel)
      else break
    return e

def additive (fuel : Nat) : P Expr :=
  match fuel with
  | 0 => fail
  | fuel + 1 => do
    let mut e ← multiplicative fuel
    for _ in (← get).toks do
      if ← acceptSym "+" then e := .binary .add e (← multiplicative fuel)
      else if ← acceptSym "-" then e := .binary .sub e (← multiplicative fuel)
      else break
    return e

def multiplicative (fuel : Nat) : P Expr :=
  match fuel with
  | 0 => fail
  | fuel + 1 => do
    let mut e ← concat fuel
    for _ in (← get).toks do
      if ← acceptSym "*" then e := .binary .mul e (← concat fuel)
      else if ← acceptSym "/" then e := .binary .div e (← concat fuel)
      else if ← acceptSym "%" then e := .binary .rem e (← concat fuel)
      else break
    return e

def concat (fuel : Nat) : P Expr :=
  match fuel with
  | 0 => fail
  | fuel + 1 => do
    let mut e ← collated fuel
    for _ in (← get).toks do
      if ← acceptSym "||" then e := .binary .concat e (← collated fuel) else break
    return e

def collated (fuel : Nat) : P Expr :=
  match fuel with
  | 0 => fail
  | fuel + 1 => do
    let mut e ← unary fuel
    for _ in (← get).toks do
      if ← acceptWord "COLLATE" then e := .collate e (← name) else break
    return e

def unary (fuel : Nat) : P Expr :=
  match fuel with
  | 0 => fail
  | fuel + 1 => do
    if ← acceptSym "-" then return .unary .neg (← unary fuel)
    if ← acceptSym "+" then return .unary .pos (← unary fuel)
    if ← acceptSym "~" then return .unary .bitNot (← unary fuel)
    if (← isWord "NOT") then
      advance
      return .unary .not (← equality fuel)
    operand fuel

def exprList (fuel : Nat) : P (List Expr) :=
  match fuel with
  | 0 => fail
  | fuel + 1 => do
    let first ← expr fuel
    let mut items := [first]
    for _ in (← get).toks do
      if ← acceptSym "," then items := items ++ [← expr fuel] else break
    return items

def callTail (fuel : Nat) (fname : String) : P Expr :=
  match fuel with
  | 0 => fail
  | fuel + 1 => do
    if ← acceptSym "*" then expectSym ")"; return .callStar fname
    if ← acceptSym ")" then return .call fname false []
    let distinct ← acceptWord "DISTINCT"
    if !distinct then discard (acceptWord "ALL")
    let args ← exprList fuel
    expectSym ")"
    return .call fname distinct args

def reference (fuel : Nat) (first : String) (quoted : Bool) : P Expr :=
  match fuel with
  | 0 => fail
  | fuel + 1 => do
    if ← acceptSym "(" then return ← callTail fuel first
    if ← acceptSym "." then
      let second ← name
      if ← acceptSym "." then
        let third ← name
        return .column (some second) third false
      return .column (some first) second false
    return .column none first quoted

def operand (fuel : Nat) : P Expr :=
  match fuel with
  | 0 => fail
  | fuel + 1 => do
    match ← peek with
    | some (.int n) => advance; return .lit (if n ≤ Int.pow 2 63 - 1 then .int n else .real (Binary64.ofInt n))
    | some (.real x) => advance; return .lit (.real (Binary64.ofSci x))
    | some (.text s) =>
      advance
      if ← isSym "(" then fail
      return .lit (.text s)
    | some (.blob h) => advance; return .lit (.blob h)
    | some (.param n) => advance; return .param (← paramIndex (.param n))
    | some (.named s) => advance; return .param (← paramIndex (.named s))
    | some (.name s dq) => advance; reference fuel s dq
    | some (.sym "(") =>
      advance
      if ← startsQuery then
        let q ← query fuel
        expectSym ")"
        return .scalar q
      let e ← expr fuel
      expectSym ")"
      return e
    | some (.word w) =>
      let up := w.toUpper
      if up == "NULL" then advance; return .lit .null
      if up == "CAST" && ((← peek2).map (·.isSym "(")).getD false then
        advance; advance
        let e ← expr fuel
        expectWord "AS"
        let t ← typeName
        expectSym ")"
        return .cast e t
      if up == "CASE" then
        advance
        let operand ← if ← isWord "WHEN" then pure none else some <$> expr fuel
        let mut arms : List (Expr × Expr) := []
        for _ in (← get).toks do
          if ← acceptWord "WHEN" then
            let c ← expr fuel
            expectWord "THEN"
            arms := arms ++ [(c, ← expr fuel)]
          else break
        if arms.isEmpty then fail
        let dflt ← if ← acceptWord "ELSE" then some <$> expr fuel else pure none
        expectWord "END"
        return .case operand arms dflt
      if up == "EXISTS" then
        advance
        expectSym "("
        let q ← query fuel
        expectSym ")"
        return .exists q
      if up == "CURRENT_TIME" || up == "CURRENT_DATE" || up == "CURRENT_TIMESTAMP" then
        advance; return .now up
      if isNameWord w || joinWords.contains up then advance; reference fuel w false
      else fail
    | _ => fail

def item (fuel : Nat) : P Item :=
  match fuel with
  | 0 => fail
  | fuel + 1 => do
    if ← acceptSym "*" then return .all
    -- a table's columns: a name, a point and a star
    let isTableStar : Bool := match (← get).toks with
      | t1 :: t2 :: t3 :: _ =>
        (match t1.tok with
          | .word w => isNameWord w || joinWords.contains w.toUpper
          | .name _ _ | .text _ => true
          | _ => false) && t2.tok.isSym "." && t3.tok.isSym "*"
      | _ => false
    if isTableStar then
      let t ← name
      advance; advance
      return .allOf t
    let start ← here
    let e ← expr fuel
    let text ← textFrom start
    let a ← asName?
    return .expr e a text

def tableTerm (fuel : Nat) : P Source :=
  match fuel with
  | 0 => fail
  | fuel + 1 => do
    if ← acceptSym "(" then
      if ← startsQuery then
        let q ← query fuel
        expectSym ")"
        return .query q (← asName?)
      let s ← source fuel
      expectSym ")"
      return s
    let first ← name
    let (schema, table) ← if ← acceptSym "." then pure (some first, ← name) else pure (none, first)
    let a ← asName?
    if ← acceptWord "INDEXED" then expectWord "BY"; discard name
    else if (← isWord "NOT") && ((← peek2).map (·.isWord "INDEXED")).getD false then advance; advance
    return .table schema table a

def joinOp? : P (Option (JoinKind × Bool)) := do
  if ← acceptSym "," then return some (.cross, false)
  if ← acceptWord "JOIN" then return some (.inner, false)
  let natural ← acceptWord "NATURAL"
  let kind? : Option JoinKind ←
    if ← acceptWord "LEFT" then discard (acceptWord "OUTER"); pure (some .left)
    else if ← acceptWord "RIGHT" then discard (acceptWord "OUTER"); pure (some .right)
    else if ← acceptWord "FULL" then discard (acceptWord "OUTER"); pure (some .full)
    else if ← acceptWord "INNER" then pure (some .inner)
    else if ← acceptWord "CROSS" then pure (some .cross)
    else pure none
  match kind? with
  | some k => expectWord "JOIN"; return some (k, natural)
  | none =>
    if natural then expectWord "JOIN"; return some (.inner, true)
    return none

def source (fuel : Nat) : P Source :=
  match fuel with
  | 0 => fail
  | fuel + 1 => do
    let mut s ← tableTerm fuel
    for _ in (← get).toks do
      match ← joinOp? with
      | none => break
      | some (k, natural) =>
        let right ← tableTerm fuel
        let cond ← if ← acceptWord "ON" then some <$> expr fuel else pure none
        let cols ← if cond.isNone && (← acceptWord "USING") then nameList else pure []
        s := .join k natural s right cond cols
    return s

def core (fuel : Nat) : P Core :=
  match fuel with
  | 0 => fail
  | fuel + 1 => do
    if ← acceptWord "VALUES" then
      let mut rows : List (List Expr) := []
      for _ in (← get).toks do
        expectSym "("
        let row ← exprList fuel
        expectSym ")"
        rows := rows ++ [row]
        if !(← acceptSym ",") then break
      return .values rows
    expectWord "SELECT"
    let distinct ← acceptWord "DISTINCT"
    if !distinct then discard (acceptWord "ALL")
    let first ← item fuel
    let mut items := [first]
    for _ in (← get).toks do
      if ← acceptSym "," then items := items ++ [← item fuel] else break
    let src ← if ← acceptWord "FROM" then some <$> source fuel else pure none
    let filter ← if ← acceptWord "WHERE" then some <$> expr fuel else pure none
    let groups ← if ← acceptWord "GROUP" then expectWord "BY"; exprList fuel else pure []
    let having ← if ← acceptWord "HAVING" then some <$> expr fuel else pure none
    return .select distinct items src filter groups having

def query (fuel : Nat) : P Query :=
  match fuel with
  | 0 => fail
  | fuel + 1 => do
    let first ← core fuel
    let mut rest : List (SetOp × Core) := []
    for _ in (← get).toks do
      let op? : Option SetOp ←
        if ← acceptWord "UNION" then
          if ← acceptWord "ALL" then pure (some .unionAll) else pure (some .union)
        else if ← acceptWord "INTERSECT" then pure (some .intersect)
        else if ← acceptWord "EXCEPT" then pure (some .except)
        else pure none
      match op? with
      | some op => rest := rest ++ [(op, ← core fuel)]
      | none => break
    let mut order : List (Expr × Bool × Option Bool) := []
    if ← acceptWord "ORDER" then
      expectWord "BY"
      for _ in (← get).toks do
        let e ← expr fuel
        let desc ← if ← acceptWord "DESC" then pure true else do discard (acceptWord "ASC"); pure false
        let nulls ← if ← acceptWord "NULLS" then
            if ← acceptWord "FIRST" then pure (some true) else do expectWord "LAST"; pure (some false)
          else pure none
        order := order ++ [(e, desc, nulls)]
        if !(← acceptSym ",") then break
    let mut limit := none
    let mut offset := none
    if ← acceptWord "LIMIT" then
      let a ← expr fuel
      if ← acceptWord "OFFSET" then limit := some a; offset := some (← expr fuel)
      else if ← acceptSym "," then offset := some a; limit := some (← expr fuel)
      else limit := some a
    return .mk first rest order limit offset

end

def conflict : P Conflict := do
  if ← acceptWord "OR" then
    if ← acceptWord "ROLLBACK" then return .rollback
    if ← acceptWord "ABORT" then return .abort
    if ← acceptWord "FAIL" then return .fail
    if ← acceptWord "IGNORE" then return .ignore
    if ← acceptWord "REPLACE" then return .replace
    fail
  return .abort

def tableName : P String := do
  let first ← name
  if ← acceptSym "." then
    let second ← name
    return first ++ "." ++ second
  return first

def columnDef (fuel : Nat) : P ColumnDef := do
  let n ← name
  let mut col : ColumnDef := { name := n }
  match ← peek with
  | some (.word w) =>
    if isNameWord w && ! ["CONSTRAINT", "PRIMARY", "NOT", "NULL", "UNIQUE", "CHECK", "DEFAULT",
        "COLLATE", "REFERENCES", "GENERATED", "AS"].contains w.toUpper then
      col := { col with type := ← typeName }
  | some (.name _ _) | some (.text _) => col := { col with type := ← typeName }
  | _ => pure ()
  for _ in (← get).toks do
    if ← acceptWord "CONSTRAINT" then discard name
    if ← acceptWord "PRIMARY" then
      expectWord "KEY"
      let desc ← if ← acceptWord "DESC" then pure true else do discard (acceptWord "ASC"); pure false
      if ← isWord "ON" then advance; expectWord "CONFLICT"; discard name
      let auto ← acceptWord "AUTOINCREMENT"
      col := { col with primary := true, descending := desc, autoincrement := auto }
    else if ← acceptWord "NOT" then
      expectWord "NULL"
      if ← isWord "ON" then advance; expectWord "CONFLICT"; discard name
      col := { col with notNull := true }
    else if ← acceptWord "NULL" then pure ()
    else if ← acceptWord "UNIQUE" then
      if ← isWord "ON" then advance; expectWord "CONFLICT"; discard name
      col := { col with unique := true }
    else if ← acceptWord "CHECK" then
      expectSym "("
      let start ← here
      let e ← expr fuel
      let text ← textFrom start
      expectSym ")"
      col := { col with checks := col.checks ++ [(e, text)] }
    else if ← acceptWord "DEFAULT" then
      if ← acceptSym "(" then
        let e ← expr fuel
        expectSym ")"
        col := { col with dflt := some e }
      else if ← acceptSym "-" then
        match ← peek with
        | some (.int n) => advance; col := { col with dflt := some (.lit (.int (-(n : Int)))) }
        | some (.real x) => advance; col := { col with dflt := some (.lit (.real (Binary64.ofSci x).neg)) }
        | _ => fail
      else
        discard (acceptSym "+")
        match ← peek with
        | some (.int n) => advance; col := { col with dflt := some (.lit (.int n)) }
        | some (.real x) => advance; col := { col with dflt := some (.lit (.real (Binary64.ofSci x))) }
        | some (.text s) => advance; col := { col with dflt := some (.lit (.text s)) }
        | some (.blob h) => advance; col := { col with dflt := some (.lit (.blob h)) }
        | some (.word w) =>
          let up := w.toUpper
          if up == "NULL" then advance; col := { col with dflt := some (.lit .null) }
          else if up == "CURRENT_TIME" || up == "CURRENT_DATE" || up == "CURRENT_TIMESTAMP" then
            advance; col := { col with dflt := some (.now up) }
          else if isNameWord w then advance; col := { col with dflt := some (.lit (.text w)) }
          else fail
        | some (.name s _) => advance; col := { col with dflt := some (.lit (.text s)) }
        | _ => fail
    else if ← acceptWord "COLLATE" then col := { col with collation := some (← name) }
    else if ← acceptWord "REFERENCES" then
      col := { col with references := some (← name) }
      if ← isSym "(" then discard nameList
      for _ in (← get).toks do
        if ← acceptWord "ON" then
          discard name
          if ← acceptWord "SET" then discard name
          else if ← acceptWord "NO" then expectWord "ACTION"
          else discard name
        else if ← acceptWord "MATCH" then discard name
        else if (← isWord "NOT") && ((← peek2).map (·.isWord "DEFERRABLE")).getD false then
          advance; advance
          if ← acceptWord "INITIALLY" then discard name
        else if ← acceptWord "DEFERRABLE" then
          if ← acceptWord "INITIALLY" then discard name
        else break
    else break
  return col

def tableConstraint (fuel : Nat) : P TableConstraint := do
  if ← acceptWord "CONSTRAINT" then discard name
  if ← acceptWord "PRIMARY" then
    expectWord "KEY"
    let cols ← orderedNames
    let auto := false
    if ← isWord "ON" then advance; expectWord "CONFLICT"; discard name
    return .primary cols auto
  if ← acceptWord "UNIQUE" then
    let cols ← orderedNames
    if ← isWord "ON" then advance; expectWord "CONFLICT"; discard name
    return .unique cols
  if ← acceptWord "CHECK" then
    expectSym "("
    let start ← here
    let e ← expr fuel
    let text ← textFrom start
    expectSym ")"
    return .check e text
  if ← acceptWord "FOREIGN" then
    expectWord "KEY"
    let cols ← nameList
    expectWord "REFERENCES"
    let target ← name
    if ← isSym "(" then discard nameList
    for _ in (← get).toks do
      if ← acceptWord "ON" then
        discard name
        if ← acceptWord "SET" then discard name
        else if ← acceptWord "NO" then expectWord "ACTION"
        else discard name
      else if (← isWord "NOT") && ((← peek2).map (·.isWord "DEFERRABLE")).getD false then
        advance; advance
        if ← acceptWord "INITIALLY" then discard name
      else if ← acceptWord "DEFERRABLE" then
        if ← acceptWord "INITIALLY" then discard name
      else break
    return .foreign cols target
  fail
where
  orderedNames : P (List String) := do
    expectSym "("
    let mut names : List String := []
    for _ in (← get).toks do
      names := names ++ [← name]
      if ← acceptWord "COLLATE" then discard name
      if !(← acceptWord "ASC") then discard (acceptWord "DESC")
      if !(← acceptSym ",") then break
    expectSym ")"
    return names

def startsConstraint : P Bool := do
  return (← isWord "CONSTRAINT") || (← isWord "PRIMARY") || (← isWord "UNIQUE") ||
    (← isWord "CHECK") || (← isWord "FOREIGN")

def createTable (fuel : Nat) (start : Nat) : P Stmt := do
  let ifNot ← if ← acceptWord "IF" then expectWord "NOT"; expectWord "EXISTS"; pure true else pure false
  let nameStart ← here
  let n ← tableName
  let written ← textFrom nameStart
  expectSym "("
  let mut cols : List ColumnDef := []
  let mut cons : List TableConstraint := []
  for _ in (← get).toks do
    if ← startsConstraint then break
    cols := cols ++ [← columnDef fuel]
    if !(← acceptSym ",") then break
  if ← startsConstraint then
    for _ in (← get).toks do
      cons := cons ++ [← tableConstraint fuel]
      if !(← acceptSym ",") then
        if ← startsConstraint then continue
        break
  expectSym ")"
  let text ← textFrom nameStart
  for _ in (← get).toks do
    if ← acceptWord "WITHOUT" then discard name
    else if ← acceptWord "STRICT" then pure ()
    else break
    if !(← acceptSym ",") then break
  let _ := start
  return .createTable n written ifNot cols cons ("CREATE TABLE " ++ text)

def statement (fuel : Nat) : P Stmt := do
  let start ← here
  if (← startsQuery) then return .query (← query fuel)
  if ← acceptWord "INSERT" then
    let c ← conflict
    insertTail c
  else if ← acceptWord "REPLACE" then insertTail .replace
  else if ← acceptWord "UPDATE" then
    let c ← conflict
    let t ← tableName
    discard asName?
    expectWord "SET"
    let mut sets : List (List String × Expr) := []
    for _ in (← get).toks do
      let cols ← if ← isSym "(" then nameList else do pure [← name]
      expectSym "="
      sets := sets ++ [(cols, ← expr fuel)]
      if !(← acceptSym ",") then break
    let filter ← if ← acceptWord "WHERE" then some <$> expr fuel else pure none
    return .update c t sets filter
  else if ← acceptWord "DELETE" then
    expectWord "FROM"
    let t ← tableName
    discard asName?
    let filter ← if ← acceptWord "WHERE" then some <$> expr fuel else pure none
    return .delete t filter
  else if ← acceptWord "CREATE" then
    if !(← acceptWord "TEMP") then discard (acceptWord "TEMPORARY")
    if ← acceptWord "TABLE" then createTable fuel start
    else skipRest
  else if ← acceptWord "DROP" then
    if ← acceptWord "TABLE" then
      let ifExists ← if ← acceptWord "IF" then expectWord "EXISTS"; pure true else pure false
      return .dropTable (← tableName) ifExists
    skipRest
  else
    match ← peek with
    | some (.word w) =>
      if ["BEGIN", "COMMIT", "END", "ROLLBACK", "SAVEPOINT", "RELEASE", "VACUUM", "ANALYZE",
          "REINDEX", "PRAGMA", "ALTER", "ATTACH", "DETACH", "EXPLAIN"].contains w.toUpper then
        advance; skipRest
      else fail
    | _ => fail
where
  insertTail (c : Conflict) : P Stmt := do
    expectWord "INTO"
    let t ← tableName
    if ← acceptWord "AS" then discard name
    let cols ← if ← isSym "(" then some <$> nameList else pure none
    if ← acceptWord "DEFAULT" then
      expectWord "VALUES"
      return .insert c t cols .defaults
    let q ← query fuel
    match q with
    | .mk (.values rows) [] [] none none => return .insert c t cols (.values rows)
    | _ => return .insert c t cols (.query q)
  skipRest : P Stmt := do
    for _ in (← get).toks do
      if (← isSym ";") || (← peek).isNone then break
      advance
    return .other

structure Parsed where
  stmt : Stmt
  tail : Bool
  params : Nat

def parse (text : String) : Except String Parsed := do
  let toks := lex text
  let r : Reader := { toks, src := text.toList }
  match toks with
  | [] => return ⟨.other, false, 0⟩
  | t :: rest =>
    if t.tok.isSym ";" then return ⟨.other, !rest.isEmpty, 0⟩ else
    let (s, r) ← (statement (4 * toks.length + 16)).run r
    match r.toks with
    | [] => return ⟨s, false, r.params⟩
    | t :: rest =>
      if t.tok.isSym ";" then return ⟨s, !rest.isEmpty, r.params⟩
      else
        let (_, _) ← (fail : P Unit).run r
        return ⟨s, false, r.params⟩

def parseStatement (text : String) : Except String (Stmt × Bool) :=
  (parse text).map fun p => (p.stmt, p.tail)

end Sql
end Portal
