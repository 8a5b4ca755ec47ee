import Portal.Json.Basic
import Portal.Clock
import Portal.Decimal
/-! Field values. A value is what a record holds for one field: text, a number, a flag, a
moment, an exact decimal or a JSON document. Values compare as the application compares
them: by meaning, so an instant equals itself in any offset and `1.0` equals `1.00`. -/
namespace Portal

inductive Value where
  | null
  | bool (b : Bool)
  | int (n : Int)
  | text (s : String)
  | moment (m : Moment)
  | dec (d : Decimal)
  | json (j : Json)
  | real (f : Sci)
  | bytes (hex : String)
  deriving Repr, Inhabited

namespace Value

def beq : Value → Value → Bool
  | .null, .null => true
  | .bool a, .bool b => a == b
  | .int a, .int b => a == b
  | .bool a, .int b => (if a then 1 else 0) == b
  | .int a, .bool b => a == (if b then 1 else 0)
  | .text a, .text b => a == b
  | .moment a, .moment b => a.instant == b.instant
  | .dec a, .dec b => a.sameValue b
  | .dec a, .int b => a.sameValue (.ofInt b)
  | .int a, .dec b => (Decimal.ofInt a).sameValue b
  | .json a, .json b => a == b
  | .real a, .real b => a.normalize == b.normalize
  | .bytes a, .bytes b => a == b
  | _, _ => false

instance : BEq Value := ⟨beq⟩

def isNull : Value → Bool
  | .null => true
  | _ => false

def asInt? : Value → Option Int
  | .int n => some n
  | .bool b => some (if b then 1 else 0)
  | _ => none

def asNat? (v : Value) : Option Nat := v.asInt?.bind fun n => if n ≥ 0 then some n.toNat else none

def asText? : Value → Option String
  | .text s => some s
  | _ => none

def asBool : Value → Bool
  | .bool b => b
  | .int n => n ≠ 0
  | .text s => !s.isEmpty
  | .null => false
  | _ => true

def asMoment? : Value → Option Moment
  | .moment m => some m
  | _ => none

def textOr (v : Value) (d : String) : String := (v.asText?).getD d

def toJson : Value → Json
  | .null => .null
  | .bool b => .bool b
  | .int n => .int n
  | .text s => .str s
  | .moment m => .str m.iso
  | .dec d => .str d.render
  | .json j => j
  | .real f => .float f
  | .bytes h => .obj [("bytes", .str h)]

def ofNat (n : Nat) : Value := .int n

def ofOptNat : Option Nat → Value
  | some n => .int n
  | none => .null

def ofOptText : Option String → Value
  | some s => .text s
  | none => .null

def now (t : Instant) : Value := .moment (Moment.utc t)

def lt : Value → Value → Bool
  | .null, .null => false
  | .null, _ => true
  | _, .null => false
  | .int a, .int b => a < b
  | .bool a, .bool b => !a && b
  | .text a, .text b => a < b
  | .moment a, .moment b => a.instant < b.instant
  | .dec a, .dec b => a.cmp b == .lt
  | .real a, .real b => (a.add { b with neg := !b.neg }).neg
  | _, _ => false

end Value
end Portal
