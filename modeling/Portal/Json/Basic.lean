/-! JSON values as the application reads and writes them.
Objects keep their members in insertion order; numbers are integers or decimal
floats, so that every float the application shows is exact in decimal. -/
namespace Portal

structure Sci where
  neg : Bool := false
  mant : Nat
  exp : Int := 0
  special : Option String := none
  deriving DecidableEq, Repr, Inhabited

inductive Json where
  | null
  | bool (b : Bool)
  | int (n : Int)
  | float (f : Sci)
  | str (s : String)
  | arr (xs : List Json)
  | obj (kvs : List (String × Json))
  deriving Repr, Inhabited

namespace Sci

def normalize (x : Sci) : Sci :=
  if x.mant = 0 then { x with exp := 0 } else
  let rec go (m : Nat) (e : Int) (fuel : Nat) : Nat × Int :=
    match fuel with
    | 0 => (m, e)
    | fuel + 1 => if m % 10 = 0 ∧ m ≠ 0 then go (m / 10) (e + 1) fuel else (m, e)
  let (m, e) := go x.mant x.exp (toString x.mant).length
  { x with mant := m, exp := e }

def ofNat (n : Nat) : Sci := normalize { mant := n }

def ofInt (n : Int) : Sci := normalize { neg := n < 0, mant := n.natAbs }

def ofScaled (num : Int) (places : Nat) : Sci :=
  normalize { neg := num < 0, mant := num.natAbs, exp := -(places : Int) }

def zero : Sci := { mant := 0 }

def add (a b : Sci) : Sci :=
  let e := min a.exp b.exp
  let sa : Int := (if a.neg then -1 else 1) * (a.mant * Nat.pow 10 (a.exp - e).toNat : Nat)
  let sb : Int := (if b.neg then -1 else 1) * (b.mant * Nat.pow 10 (b.exp - e).toNat : Nat)
  let s := sa + sb
  normalize { neg := s < 0, mant := s.natAbs, exp := e }

def isWhole (x : Sci) : Bool := x.special.isNone && (x.exp ≥ 0 || x.mant = 0)

def toInt (x : Sci) : Int :=
  let m : Int := if x.exp ≥ 0 then (x.mant * Nat.pow 10 x.exp.toNat : Nat) else (x.mant / Nat.pow 10 (-x.exp).toNat : Nat)
  if x.neg then -m else m

def render (x : Sci) : String :=
  match x.special with
  | some s => s
  | none =>
  let x := x.normalize
  let sign := if x.neg then "-" else ""
  if x.mant = 0 then sign ++ "0.0" else
  let ds := toString x.mant
  let n := ds.length
  let k : Int := (n : Int) - 1 + x.exp
  if -4 ≤ k ∧ k < 16 then
    if x.exp ≥ 0 then sign ++ ds ++ String.ofList (List.replicate x.exp.toNat '0') ++ ".0"
    else if k ≥ 0 then
      let cut := k.toNat + 1
      sign ++ String.ofList (ds.toList.take cut) ++ "." ++ String.ofList (ds.toList.drop cut)
    else sign ++ "0." ++ String.ofList (List.replicate ((-k).toNat - 1) '0') ++ ds
  else
    let head := String.ofList (ds.toList.take 1)
    let tail := String.ofList (ds.toList.drop 1)
    let e := if k < 0 then "-" else "+"
    let kd := toString k.natAbs
    let kd := if kd.length < 2 then "0" ++ kd else kd
    sign ++ head ++ (if tail.isEmpty then "" else "." ++ tail) ++ "e" ++ e ++ kd

end Sci

namespace Json

def num (n : Nat) : Json := .int n

def get? : Json → String → Option Json
  | .obj kvs, k => (kvs.find? (·.1 == k)).map (·.2)
  | _, _ => none

def getStr? (j : Json) (k : String) : Option String :=
  match j.get? k with
  | some (.str s) => some s
  | _ => none

def getInt? (j : Json) (k : String) : Option Int :=
  match j.get? k with
  | some (.int n) => some n
  | _ => none

def getBool? (j : Json) (k : String) : Option Bool :=
  match j.get? k with
  | some (.bool b) => some b
  | _ => none

def getArr? (j : Json) (k : String) : Option (List Json) :=
  match j.get? k with
  | some (.arr xs) => some xs
  | _ => none

def getObj? (j : Json) (k : String) : Option (List (String × Json)) :=
  match j.get? k with
  | some (.obj kvs) => some kvs
  | _ => none

def isNull : Json → Bool
  | .null => true
  | _ => false

def has (j : Json) (k : String) : Bool :=
  match j.get? k with
  | some .null | none => false
  | _ => true

def members : Json → List (String × Json)
  | .obj kvs => kvs
  | _ => []

def items : Json → List Json
  | .arr xs => xs
  | _ => []

def setKey (kvs : List (String × Json)) (k : String) (v : Json) : List (String × Json) :=
  if kvs.any (·.1 == k) then kvs.map fun p => if p.1 == k then (k, v) else p else kvs ++ [(k, v)]

def ofMembers (kvs : List (String × Json)) : Json :=
  .obj (kvs.foldl (fun acc p => setKey acc p.1 p.2) [])

def set (j : Json) (k : String) (v : Json) : Json := .obj (setKey j.members k v)

def optStr : Option String → Json
  | some s => .str s
  | none => .null

def optInt : Option Int → Json
  | some n => .int n
  | none => .null

def strs (xs : List String) : Json := .arr (xs.map .str)

def truthy : Json → Bool
  | .null => false
  | .bool b => b
  | .int n => n != 0
  | .float f => f.mant != 0 || f.special.isSome
  | .str s => !s.isEmpty
  | .arr xs => !xs.isEmpty
  | .obj kvs => !kvs.isEmpty

def kindName : Json → String
  | .null => "NoneType"
  | .bool _ => "bool"
  | .int _ => "int"
  | .float _ => "float"
  | .str _ => "str"
  | .arr _ => "list"
  | .obj _ => "dict"

def beq : Json → Json → Bool
  | .null, .null => true
  | .bool a, .bool b => a == b
  | .int a, .int b => a == b
  | .float a, .float b => a.normalize == b.normalize
  | .int a, .float b => (Sci.ofInt a).normalize == b.normalize
  | .float a, .int b => a.normalize == (Sci.ofInt b).normalize
  | .int a, .bool b => a == (if b then 1 else 0)
  | .bool a, .int b => (if a then 1 else 0) == b
  | .str a, .str b => a == b
  | .arr xs, .arr ys => listBeq xs ys
  | .obj xs, .obj ys => xs.length == ys.length && objBeq xs ys ys
  | _, _ => false
where
  listBeq : List Json → List Json → Bool
    | [], [] => true
    | x :: xs, y :: ys => beq x y && listBeq xs ys
    | _, _ => false
  objBeq : List (String × Json) → List (String × Json) → List (String × Json) → Bool
    | [], _, _ => true
    | (k, v) :: rest, ys, all => lookup k v all && objBeq rest ys all
  lookup (k : String) (v : Json) : List (String × Json) → Bool
    | [] => false
    | (k', v') :: rest => if k == k' then beq v v' else lookup k v rest

instance : BEq Json := ⟨beq⟩

end Json
end Portal
