/-! Exact decimal numbers with their exponent kept: `1.0` and `1.00` are equal in value but
written differently. Text follows the general decimal arithmetic rules: positional while
the exponent is at most zero and the number is not below `1e-6`, scientific otherwise. -/
namespace Portal

structure Decimal where
  neg : Bool := false
  coeff : Nat
  exp : Int := 0
  deriving DecidableEq, Repr, Inhabited

namespace Decimal

def ofInt (n : Int) : Decimal := { neg := n < 0, coeff := n.natAbs }

def digitCount (n : Nat) : Nat := (toString n).length

def scaledTo (d : Decimal) (e : Int) : Int :=
  let v : Int := d.coeff * Nat.pow 10 (d.exp - e).toNat
  if d.neg then -v else v

def cmp (a b : Decimal) : Ordering :=
  let e := min a.exp b.exp
  compare (a.scaledTo e) (b.scaledTo e)

def sameValue (a b : Decimal) : Bool := a.cmp b == .eq

def render (d : Decimal) : String :=
  let sign := if d.neg then "-" else ""
  let ds := toString d.coeff
  let n := ds.length
  let adjusted : Int := d.exp + n - 1
  if d.exp ≤ 0 ∧ adjusted ≥ -6 then
    if d.exp = 0 then sign ++ ds
    else
      let places := (-d.exp).toNat
      if n > places then
        sign ++ String.ofList (ds.toList.take (n - places)) ++ "." ++ String.ofList (ds.toList.drop (n - places))
      else sign ++ "0." ++ String.ofList (List.replicate (places - n) '0') ++ ds
  else
    let head := String.ofList (ds.toList.take 1)
    let tail := String.ofList (ds.toList.drop 1)
    let e := if adjusted ≥ 0 then "+" ++ toString adjusted else toString adjusted
    sign ++ head ++ (if tail.isEmpty then "" else "." ++ tail) ++ "E" ++ e

def parse (s : String) : Option Decimal :=
  let cs := s.trimAscii.toString.toList
  let (neg, cs) := match cs with
    | '-' :: r => (true, r)
    | '+' :: r => (false, r)
    | r => (false, r)
  let (mant, expPart) := match cs.findIdx? (fun c => c = 'e' ∨ c = 'E') with
    | some i => (cs.take i, some (cs.drop (i + 1)))
    | none => (cs, none)
  let (whole, frac) := match mant.splitOn '.' with
    | [w] => (w, [])
    | [w, f] => (w, f)
    | _ => (['x'], [])
  let digits := whole ++ frac
  if digits.isEmpty ∨ ¬digits.all Char.isDigit then none else
  let coeff := digits.foldl (fun n c => n * 10 + (c.toNat - 48)) 0
  let e? : Option Int := match expPart with
    | none => some 0
    | some es =>
      let (en, es) := match es with
        | '-' :: r => (true, r)
        | '+' :: r => (false, r)
        | r => (false, r)
      if es.isEmpty ∨ ¬es.all Char.isDigit then none
      else
        let v : Int := es.foldl (fun n c => n * 10 + (c.toNat - 48)) 0
        some (if en then -v else v)
  e?.map fun e => { neg, coeff, exp := e - frac.length }

def roundHalfEven (n : Nat) (k : Nat) : Nat :=
  let p := Nat.pow 10 k
  let q := n / p
  let r := n % p
  if 2 * r > p then q + 1 else if 2 * r < p then q else if q % 2 = 0 then q else q + 1

def quantize (d : Decimal) (digits places : Nat) : Option Decimal :=
  let target : Int := -(places : Int)
  let coeff :=
    if d.exp ≥ target then d.coeff * Nat.pow 10 (d.exp - target).toNat
    else roundHalfEven d.coeff (target - d.exp).toNat
  if digitCount coeff > digits then none else some { neg := d.neg, coeff, exp := target }

end Decimal
end Portal
