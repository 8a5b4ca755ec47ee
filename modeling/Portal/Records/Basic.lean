import Portal.World
import Portal.Json.Literal
/-! Records held in memory. A record (`Obj`) has a value for every field of its kind and a
key once stored. Writing a record prepares every value for its column (text for text
fields, whole numbers for counts, decimals rounded to their places) and fails, changing
nothing, when a value does not fit. -/
namespace Portal

namespace Value

def ofJson : Json → Value
  | .null => .null
  | .bool b => .bool b
  | .int n => .int n
  | .float f => .real f
  | .str s => .text s
  | j => .json j

def toText : Value → String
  | .null => "None"
  | .bool b => if b then "True" else "False"
  | .int n => toString n
  | .text s => s
  | .moment m => m.iso.map fun c => if c = 'T' then ' ' else c
  | .dec d => d.render
  | .json j => j.literal
  | .real f => (Json.float f).literal
  | .bytes h => "b'" ++ h ++ "'"

def literal : Value → String
  | .text s => Text.quoteLiteral s
  | .moment m =>
    let f := m.fields
    s!"datetime.datetime({f.year}, {f.month}, {f.day}, {f.hour}, {f.minute}" ++
      (if f.second = 0 ∧ f.micro = 0 then "" else s!", {f.second}") ++
      (if f.micro = 0 then "" else s!", {f.micro}") ++ ", tzinfo=datetime.timezone.utc)"
  | .dec d => "Decimal('" ++ d.render ++ "')"
  | v => v.toText

def toDoc? : Value → Option Json
  | .null => some .null
  | .bool b => some (.bool b)
  | .int n => some (.int n)
  | .text s => some (.str s)
  | .json j => some j
  | .real f => some (.float f)
  | _ => none

def typeName : Value → String
  | .moment _ => "datetime"
  | .dec _ => "Decimal"
  | .bytes _ => "bytes"
  | _ => "object"

end Value

structure Obj where
  entity : Entity
  pk : Option Nat := none
  cells : List (String × Value)
  adding : Bool := true
  changes : List (String × Value × Value) := []
  deriving Inhabited

namespace Obj

def get (o : Obj) (name : String) : Value :=
  if name = "id" then (match o.pk with | some k => .int k | none => .null)
  else ((o.cells.find? (·.1 == name)).map (·.2)).getD .null

def set (o : Obj) (name : String) (v : Value) : Obj :=
  if name = "id" then { o with pk := v.asNat? } else
  { o with cells := if o.cells.any (·.1 == name) then
      o.cells.map fun p => if p.1 == name then (name, v) else p
    else o.cells ++ [(name, v)] }

def getText (o : Obj) (name : String) : String := (o.get name).textOr ""

def getNat? (o : Obj) (name : String) : Option Nat := (o.get name).asNat?

def getBool (o : Obj) (name : String) : Bool := (o.get name).asBool

def model (o : Obj) : Model := o.entity.model

def ofRow (e : Entity) (r : Row) : Obj :=
  { entity := e, pk := some r.pk, cells := r.cells, adding := false }

def fresh (e : Entity) (now : Instant) : Obj :=
  let cells := e.model.fields.filterMap fun f =>
    if f.kind == .serial then none else
    some (f.name, match f.dflt with
      | .none => .null
      | .value v => v
      | .now => Value.now now)
  { entity := e, cells }

end Obj

namespace Field

def numberError (f : Field) (v : String) : Fault :=
  ⟨"ValueError", s!"Field '{f.name}' expected a number but got {v}."⟩

def intOfText? (s : String) : Option Int :=
  let cs := s.trimAscii.toString.toList
  let (neg, cs) := match cs with
    | '-' :: r => (true, r)
    | '+' :: r => (false, r)
    | r => (false, r)
  let ok := !cs.isEmpty && cs.head? != some '_' && cs.getLast? != some '_' &&
    cs.all (fun c => c.isDigit || c = '_') && !(String.ofList cs).contains "__"
  if !ok then none else
  let n : Int := (cs.filter Char.isDigit).foldl (fun n c => n * 10 + (c.toNat - 48)) 0
  some (if neg then -n else n)

def prep (f : Field) (v : Value) : Except Fault Value :=
  match v with
  | .null => .ok .null
  | _ =>
  match f.kind with
  | .serial | .int | .posInt | .ref .. =>
    match v with
    | .int n => .ok (.int n)
    | .bool b => .ok (.int (if b then 1 else 0))
    | .text s => match intOfText? s with
      | some n => .ok (.int n)
      | none => .error (f.numberError (Text.quoteLiteral s))
    | .real x => .ok (.int x.toInt)
    | other => .error { f.numberError other.literal with kind := "TypeError" }
  | .text | .ip | .file => .ok (.text v.toText)
  | .bool =>
    match v with
    | .bool b => .ok (.bool b)
    | .int 1 => .ok (.bool true)
    | .int 0 => .ok (.bool false)
    | .text "t" | .text "True" | .text "1" => .ok (.bool true)
    | .text "f" | .text "False" | .text "0" => .ok (.bool false)
    | other => .error ⟨"ValidationError", "['“" ++ other.toText ++ "” value must be either True or False.']"⟩
  | .moment =>
    match v with
    | .moment m => .ok (.moment m.toUtc)
    | other => .error ⟨"ValidationError",
        "['“" ++ other.toText ++ "” value has an invalid format. It must be in YYYY-MM-DD HH:MM[:ss[.uuuuuu]][TZ] format.']"⟩
  | .dec digits places =>
    let d? : Option Decimal := match v with
      | .dec d => some d
      | .int n => some (.ofInt n)
      | .text s => Decimal.parse s
      | _ => none
    match d? with
    | none => .error ⟨"ValidationError", "['“" ++ v.toText ++ "” value must be a decimal number.']"⟩
    | some d => match d.quantize digits places with
      | some q => .ok (.dec q)
      | none => .error ⟨"InvalidOperation", "[<class 'decimal.InvalidOperation'>]"⟩
  | .json =>
    match v with
    | .json j => .ok (.json j)
    | other => match other.toDoc? with
      | some j => .ok (.json j)
      | none => .error ⟨"TypeError", s!"Object of type {other.typeName} is not JSON serializable"⟩

end Field

namespace App

def find? (e : Entity) (pk : Nat) : App (Option Obj) := do
  return ((← db).find? e pk).map (Obj.ofRow e)

def load (e : Entity) (pk : Nat) : App Obj := do
  match ← find? e pk with
  | some o => pure o
  | none => fail (Fault.doesNotExist e.model.name)

def all (e : Entity) : App (List Obj) := do
  return ((← db).rows e).map (Obj.ofRow e)

def write (o : Obj) (only : Option (List String) := none) : App Obj := do
  let now ← now
  let m := o.model
  let touched (f : Field) : Bool := match only with
    | some names => names.contains f.name
    | none => true
  let o := m.fields.foldl (fun (o : Obj) f =>
    if touched f && (f.autoNow || (f.autoNowAdd && o.adding)) then o.set f.name (Value.now now) else o) o
  let mut cells : List (String × Value) := []
  for f in m.fields do
    if f.kind != .serial && touched f then
      let v ← ofExcept (f.prep (o.get f.name))
      cells := cells ++ [(f.name, v)]
  let db ← db
  match o.pk with
  | some k =>
    if db.exists? o.entity k then
      let (db', _) ← ofDb (db.update o.entity k cells)
      setDb db'
      return { o with adding := false }
    else
      let (db', key) ← ofDb (db.insert o.entity cells (some k))
      setDb db'
      return { o with pk := some key, adding := false }
  | none =>
    let (db', key) ← ofDb (db.insert o.entity cells)
    setDb db'
    return { o with pk := some key, adding := false }

end App
end Portal
