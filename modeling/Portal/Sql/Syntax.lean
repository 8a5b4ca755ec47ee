import Portal.Sql.Datum
/-! The shape of a statement: expressions, queries, the sources rows come from, and the
statements that read, write, create and drop tables. A result column remembers the text of
its expression, since that text names the column when no asName does. The keyword tables
say which words a statement reserves and which may still serve as names. -/
namespace Portal
namespace Sql

inductive UnaryOp where
  | neg
  | pos
  | bitNot
  | not
  deriving DecidableEq, Repr, Inhabited

inductive BinOp where
  | or
  | and
  | eq
  | ne
  | lt
  | le
  | gt
  | ge
  | is
  | isNot
  | add
  | sub
  | mul
  | div
  | rem
  | concat
  | bitAnd
  | bitOr
  | shl
  | shr
  deriving DecidableEq, Repr, Inhabited

inductive PatternOp where
  | like
  | glob
  | regexp
  | matchText
  deriving DecidableEq, Repr, Inhabited

inductive JoinKind where
  | inner
  | left
  | right
  | full
  | cross
  deriving DecidableEq, Repr, Inhabited

inductive SetOp where
  | union
  | unionAll
  | intersect
  | except
  deriving DecidableEq, Repr, Inhabited

mutual

inductive Expr where
  | lit (d : Datum)
  | param (index : Nat)
  | column (table : Option String) (name : String) (quoted : Bool)
  | unary (op : UnaryOp) (e : Expr)
  | binary (op : BinOp) (a b : Expr)
  | call (name : String) (distinct : Bool) (args : List Expr)
  | callStar (name : String)
  | isNull (e : Expr) (negated : Bool)
  | between (e lo hi : Expr) (negated : Bool)
  | inList (e : Expr) (items : List Expr) (negated : Bool)
  | inQuery (e : Expr) (q : Query) (negated : Bool)
  | pattern (op : PatternOp) (e pat : Expr) (escape : Option Expr) (negated : Bool)
  | case (operand : Option Expr) (arms : List (Expr × Expr)) (dflt : Option Expr)
  | cast (e : Expr) (type : String)
  | collate (e : Expr) (name : String)
  | exists (q : Query)
  | scalar (q : Query)
  | now (word : String)

inductive Item where
  | all
  | allOf (table : String)
  | expr (e : Expr) (asName : Option String) (text : String)

inductive Source where
  | table (schema : Option String) (name : String) (asName : Option String)
  | query (q : Query) (asName : Option String)
  | join (kind : JoinKind) (natural : Bool) (left right : Source) (cond : Option Expr) (usingCols : List String)

inductive Core where
  | select (distinct : Bool) (items : List Item) (src : Option Source) (filter : Option Expr)
      (groups : List Expr) (having : Option Expr)
  | values (rows : List (List Expr))

inductive Query where
  | mk (first : Core) (rest : List (SetOp × Core)) (order : List (Expr × Bool × Option Bool))
      (limit : Option Expr) (offset : Option Expr)

end

instance : Inhabited Expr := ⟨.lit .null⟩

instance : Inhabited Core := ⟨.values []⟩

instance : Inhabited Query := ⟨.mk default [] [] none none⟩

inductive Conflict where
  | abort
  | fail
  | ignore
  | replace
  | rollback
  deriving DecidableEq, Repr, Inhabited

structure ColumnDef where
  name : String
  type : String := ""
  primary : Bool := false
  descending : Bool := false
  autoincrement : Bool := false
  notNull : Bool := false
  unique : Bool := false
  dflt : Option Expr := none
  checks : List (Expr × String) := []
  collation : Option String := none
  references : Option String := none
  deriving Inhabited

inductive TableConstraint where
  | primary (cols : List String) (autoincrement : Bool)
  | unique (cols : List String)
  | check (e : Expr) (text : String)
  | foreign (cols : List String) (table : String)
  | other
  deriving Inhabited

inductive InsertRows where
  | values (rows : List (List Expr))
  | query (q : Query)
  | defaults
  deriving Inhabited

inductive Stmt where
  | query (q : Query)
  | insert (conflict : Conflict) (table : String) (columns : Option (List String)) (rows : InsertRows)
  | update (conflict : Conflict) (table : String) (sets : List (List String × Expr)) (filter : Option Expr)
  | delete (table : String) (filter : Option Expr)
  | createTable (name : String) (written : String) (ifNotExists : Bool) (columns : List ColumnDef)
      (constraints : List TableConstraint) (schemaText : String)
  | dropTable (name : String) (ifExists : Bool)
  | other
  deriving Inhabited

def keywords : List String :=
  ["ABORT", "ACTION", "ADD", "AFTER", "ALL", "ALTER", "ALWAYS", "ANALYZE", "AND", "AS", "ASC",
   "ATTACH", "AUTOINCREMENT", "BEFORE", "BEGIN", "BETWEEN", "BY", "CASCADE", "CASE", "CAST", "CHECK",
   "COLLATE", "COLUMN", "COMMIT", "CONFLICT", "CONSTRAINT", "CREATE", "CROSS", "CURRENT",
   "CURRENT_DATE", "CURRENT_TIME", "CURRENT_TIMESTAMP", "DATABASE", "DEFAULT", "DEFERRED",
   "DEFERRABLE", "DELETE", "DESC", "DETACH", "DISTINCT", "DO", "DROP", "END", "EACH", "ELSE", "ESCAPE",
   "EXCEPT", "EXCLUSIVE", "EXCLUDE", "EXISTS", "EXPLAIN", "FAIL", "FILTER", "FIRST", "FOLLOWING",
   "FOR", "FOREIGN", "FROM", "FULL", "GENERATED", "GLOB", "GROUP", "GROUPS", "HAVING", "IF", "IGNORE",
   "IMMEDIATE", "IN", "INDEX", "INDEXED", "INITIALLY", "INNER", "INSERT", "INSTEAD", "INTERSECT",
   "INTO", "IS", "ISNULL", "JOIN", "KEY", "LAST", "LEFT", "LIKE", "LIMIT", "MATCH", "MATERIALIZED",
   "NATURAL", "NO", "NOT", "NOTHING", "NOTNULL", "NULL", "NULLS", "OF", "OFFSET", "ON", "OR", "ORDER",
   "OTHERS", "OUTER", "OVER", "PARTITION", "PLAN", "PRAGMA", "PRECEDING", "PRIMARY", "QUERY", "RAISE",
   "RANGE", "RECURSIVE", "REFERENCES", "REGEXP", "REINDEX", "RELEASE", "RENAME", "REPLACE", "RESTRICT",
   "RETURNING", "RIGHT", "ROLLBACK", "ROW", "ROWS", "SAVEPOINT", "SELECT", "SET", "TABLE", "TEMP",
   "TEMPORARY", "THEN", "TIES", "TO", "TRANSACTION", "TRIGGER", "UNBOUNDED", "UNION", "UNIQUE",
   "UPDATE", "USING", "VACUUM", "VALUES", "VIEW", "VIRTUAL", "WHEN", "WHERE", "WINDOW", "WITH",
   "WITHOUT"]

def joinWords : List String := ["CROSS", "FULL", "INNER", "LEFT", "NATURAL", "OUTER", "RIGHT"]

def fallbackWords : List String :=
  ["ABORT", "ACTION", "AFTER", "ANALYZE", "ASC", "ATTACH", "BEFORE", "BEGIN", "BY", "CASCADE", "CAST",
   "COLUMN", "CONFLICT", "DATABASE", "DEFERRED", "DESC", "DETACH", "DO", "EACH", "END", "EXCLUSIVE",
   "EXPLAIN", "FAIL", "FOR", "IGNORE", "IMMEDIATE", "INITIALLY", "INSTEAD", "LIKE", "GLOB", "REGEXP",
   "MATCH", "NO", "PLAN", "QUERY", "KEY", "OF", "OFFSET", "PRAGMA", "RAISE", "RECURSIVE", "RELEASE",
   "REPLACE", "RESTRICT", "ROW", "ROWS", "ROLLBACK", "SAVEPOINT", "TEMP", "TEMPORARY", "TRIGGER",
   "VACUUM", "VIEW", "VIRTUAL", "WITH", "WITHOUT", "NULLS", "FIRST", "LAST", "CURRENT", "FOLLOWING",
   "PARTITION", "PRECEDING", "RANGE", "UNBOUNDED", "EXCLUDE", "GROUPS", "OTHERS", "TIES", "GENERATED",
   "ALWAYS", "MATERIALIZED", "REINDEX", "RENAME", "CURRENT_TIME", "CURRENT_DATE",
   "CURRENT_TIMESTAMP", "IF", "INDEXED", "WINDOW", "OVER", "FILTER"]

def isKeyword (w : String) : Bool := keywords.contains w.toUpper

def isNameWord (w : String) : Bool :=
  !isKeyword w || fallbackWords.contains w.toUpper

end Sql
end Portal
