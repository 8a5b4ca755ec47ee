import Portal.Sql.Exec
import Portal.World
import Portal.Json.Literal
/-! Running one statement the way the application's database cursor does. The statement text
uses `%s` for its parameters, and `%%` for a literal percent sign; both are turned into the
engine's own placeholders before it runs. Every parameter is bound by position, and a value the
engine cannot hold is refused when it is bound. The rows that come back are read column by
column: a column whose name carries a type in brackets, or whose declared type is one of the
converted types, has its non-null values converted: `bool` compares the value's text with
`1`, and the date and time types read the text as a date or a time. -/
namespace Portal
namespace Database

inductive Cell where
  | none
  | bool (b : Bool)
  | int (n : Int)
  | real (x : Binary64)
  | text (s : String)
  | bytes (hex : String)
  | stamp (date time : String) (offset : Option String)
  | date (text : String)
  | time (text : String)
  deriving Inhabited

namespace Cell

def ofDatum : Sql.Datum → Cell
  | .null => .none
  | .int n => .int n
  | .real x => .real x
  | .text s => .text s
  | .blob h => .bytes h

def toJson : Cell → Json
  | .none => .null
  | .bool b => .bool b
  | .int n => .int n
  | .real x => .float x.toSci
  | .text s => .str s
  | .bytes h => .obj [("bytes", .str h)]
  | .stamp d t o => .str (d ++ "T" ++ t ++ o.getD "")
  | .date d => .str d
  | .time t => .str t

def bytesText (hex : String) : String :=
  let bs := Sql.Datum.bytesOfHex hex.toList
  let hasSingle := bs.contains 39
  let q : UInt8 := if hasSingle && !bs.contains 34 then 34 else 39
  let esc (b : UInt8) : String :=
    if b == q || b == 92 then "\\" ++ (Char.ofNat b.toNat).toString
    else if b == 9 then "\\t" else if b == 10 then "\\n" else if b == 13 then "\\r"
    else if 32 ≤ b && b < 127 then (Char.ofNat b.toNat).toString
    else "\\x" ++ (Sql.Datum.hexOfBytes [b])
  "b" ++ (Char.ofNat q.toNat).toString ++ String.join (bs.map esc) ++ (Char.ofNat q.toNat).toString

def toText : Cell → String
  | .none => "None"
  | .bool b => if b then "True" else "False"
  | .int n => toString n
  | .real x => match x with
    | .inf n => if n then "-inf" else "inf"
    | _ => x.toSci.render
  | .text s => s
  | .bytes h => bytesText h
  | .stamp d t o => d ++ " " ++ t ++ o.getD ""
  | .date d => d
  | .time t => t

end Cell

def qmarkText (query : String) : String :=
  let rec marks : List Char → Option Char → List Char
    | [], _ => []
    | '%' :: 's' :: rest, prev => if prev == some '%' then '%' :: marks ('s' :: rest) (some '%') else '?' :: marks rest (some 's')
    | c :: rest, _ => c :: marks rest (some c)
  -- each `%%`, read from the left, stands for one `%`
  let rec unescape : List Char → List Char
    | '%' :: '%' :: rest => '%' :: unescape rest
    | c :: rest => c :: unescape rest
    | [] => []
  String.ofList (unescape (marks query.toList none))

def bindParam (position : Nat) (j : Json) : Sql.Run Sql.Datum :=
  match j with
  | .null => pure .null
  | .bool b => pure (.int (if b then 1 else 0))
  | .int n => if Sql.fitsInt n then pure (.int n)
    else .error ⟨.overflow, "Python int too large to convert to SQLite INTEGER"⟩
  | .float x => pure (.real (Binary64.ofSci x))
  | .str s => pure (.text s)
  | .arr _ => .error ⟨.programming, "Error binding parameter " ++ toString position ++ ": type 'list' is not supported"⟩
  | .obj _ => .error ⟨.programming, "Error binding parameter " ++ toString position ++ ": type 'dict' is not supported"⟩

def paramList (params : Json) : Except Fault (List (Sql.Run Sql.Datum)) :=
  if !params.truthy then pure [] else
  match params with
  | .arr xs => pure ((xs.zip (List.range xs.length)).map fun (x, i) => bindParam (i + 1) x)
  | .str s => pure ((s.toList.zip (List.range s.length)).map fun (c, i) => bindParam (i + 1) (.str c.toString))
  | .obj _ => throw ⟨"InputError", "params must be a list"⟩
  | _ => throw ⟨"ProgrammingError", "parameters are of unsupported type"⟩

def columnLabel (name : String) : String :=
  let cs := name.toList
  match cs.findIdx? (· == '[') with
  | none => name
  | some i =>
    let cut := if i > 0 && cs[i - 1]? == some ' ' then i - 1 else i
    String.ofList (cs.take cut)

def labelType? (name : String) : Option String :=
  let rec scan : List Char → Option (List Char) → Option String
    | [], _ => none
    | '[' :: rest, _ => scan rest (some [])
    | ']' :: _, some acc => some (String.ofList acc.reverse)
    | c :: rest, some acc => scan rest (some (c :: acc))
    | _ :: rest, none => scan rest none
  scan name.toList none

def typeWord (declared : String) : String :=
  String.ofList (declared.toList.takeWhile fun c => c != ' ' && c != '(')

inductive Conversion where
  | bool
  | date
  | time
  | stamp
  deriving DecidableEq, Inhabited

def Conversion.ofName? (name : String) : Option Conversion :=
  match name.toUpper with
  | "BOOL" => some .bool
  | "DATE" => some .date
  | "TIME" => some .time
  | "DATETIME" | "TIMESTAMP" => some .stamp
  | _ => none

def conversionOf (col : Sql.ResultCol) : Option Conversion :=
  match labelType? col.name with
  | some t => Conversion.ofName? t
  | none => if col.declType.isEmpty then none else Conversion.ofName? (typeWord col.declType)

def storedText : Sql.Datum → String
  | .blob h => Sql.Datum.textOfHex h
  | d => d.textOr ""

def looseDate (s : String) : Option String :=
  match s.splitOn "-" with
  | [y, m, d] =>
    if y.length == 4 && (m.length == 1 || m.length == 2) && (d.length == 1 || d.length == 2) then do
      let yv ← Iso.digitsVal y.toList
      let mv ← Iso.digitsVal m.toList
      let dv ← Iso.digitsVal d.toList
      if yv = 0 || mv = 0 || mv > 12 || dv = 0 || dv > Civil.monthDays yv mv then none
      else some (Text.pad 4 yv ++ "-" ++ Text.pad 2 mv ++ "-" ++ Text.pad 2 dv)
    else none
  | _ => none

def readStamp (s : String) : Option Cell := do
  let (m, offset) ← Iso.parse s
  let f := m.fields
  return .stamp (Moment.dateText f) (Moment.timeText f) (if offset then some (Moment.offsetText m.offset) else none)

def convert (c : Conversion) (d : Sql.Datum) : Cell :=
  let s := storedText d
  match c with
  | .bool => .bool (s == "1")
  | .stamp => (readStamp s).getD .none
  | .date =>
    match Iso.dateOf s.toList with
    | some (y, m, dd) => .date (Text.pad 4 y.toNat ++ "-" ++ Text.pad 2 m ++ "-" ++ Text.pad 2 dd)
    | none => ((looseDate s).map Cell.date).getD .none
  | .time =>
    match Iso.timeOf s.toList with
    | some (h, mi, sec, micro) =>
      .time (Text.pad 2 h ++ ":" ++ Text.pad 2 mi ++ ":" ++ Text.pad 2 sec ++
        (if micro = 0 then "" else "." ++ Text.pad 6 micro))
    | none => .none

def cellOf (col : Sql.ResultCol) (d : Sql.Datum) : Cell :=
  match d, conversionOf col with
  | .null, _ => .none
  | _, some c => convert c d
  | _, none => Cell.ofDatum d

def rowCells (cols : List Sql.ResultCol) (vals : List Sql.Datum) : List (String × Cell) :=
  (cols.zip vals).foldl (fun acc (col, d) =>
    let k := columnLabel col.name
    let v := cellOf col d
    if acc.any (·.1 == k) then acc.map fun p => if p.1 == k then (k, v) else p else acc ++ [(k, v)]) []

inductive Reply where
  | rows (rs : List (List (String × Cell)))
  | count (n : Int)
  deriving Inhabited

def faultOf (e : Sql.Error) : Fault := ⟨e.kind.name, e.message⟩

def run (db : Db) (clock : Moment) (query : String) (params : Json) (fetch : Bool) :
    Db × Except Fault Reply :=
  match paramList params with
  | .error f => (db, .error f)
  | .ok ps =>
  match Sql.execute db clock (qmarkText query) ps with
  | .error e => (db, .error (faultOf e))
  | .ok (db', out) =>
    if fetch then
      match out.result with
      | some rel => (db', .ok (.rows (rel.rows.map (rowCells rel.cols))))
      | none => (db', .error ⟨"TypeError", "'NoneType' object is not iterable"⟩)
    else (db', .ok (.count out.changed))

def execute (query : String) (params : Json) (fetch : Bool) : App Reply := do
  let w ← get
  let (db, reply) := run w.db (Moment.utc w.clock) query params fetch
  App.setDb db
  App.ofExcept reply

def fetchRows (query : String) : App (List (List (String × Cell))) := do
  match ← execute query .null true with
  | .rows rs => return rs
  | .count _ => return []

def Reply.toJson : Reply → Json
  | .rows rs => .arr (rs.map fun r => .obj (r.map fun (k, v) => (k, v.toJson)))
  | .count n => .int n

end Database
end Portal
