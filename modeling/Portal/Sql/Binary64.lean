import Portal.Json.Basic
import Portal.Text.Double
/-! The database's floating point numbers: binary doubles with 53 significant bits. A
value is `±mant × 2 ^ exp` or an infinity. Each operation takes the exact result of its
operands and rounds it to the nearest double, ties to an even mantissa, with the gradual
underflow below `2 ^ -1022`; a result beyond the largest double is an infinity. Two texts
are made of a double: the shortest decimal that reads back to it, which answers carry,
and fifteen significant digits, which is how the database turns a number into text. -/
namespace Portal

inductive Binary64 where
  | finite (neg : Bool) (mant : Nat) (exp : Int)
  | inf (neg : Bool)
  deriving DecidableEq, Repr, Inhabited

namespace Binary64

def minExp : Int := -1074

def ofRatio (neg : Bool) (num den : Nat) (e : Int) : Binary64 :=
  if num = 0 ∨ den = 0 then .finite neg 0 0 else
  let s0 : Int := 52 - (Nat.log2 num : Int) + (Nat.log2 den : Int)
  let s1 := if (Double.shifted num den s0).1 < Nat.pow 2 52 * (Double.shifted num den s0).2 then s0 + 1 else s0
  let s := min s1 (e - minExp)
  let m := Double.roundDiv (Double.shifted num den s).1 (Double.shifted num den s).2
  let (m, k) := if m = Nat.pow 2 53 then (Nat.pow 2 52, e - s + 1) else (m, e - s)
  if m = 0 then .finite neg 0 0
  else if k + 52 > 1023 then .inf neg
  else .finite neg m k

def zero : Binary64 := .finite false 0 0

def ofInt (n : Int) : Binary64 := ofRatio (n < 0) n.natAbs 1 0

def ofSci (x : Sci) : Binary64 :=
  match x.special with
  | some s => if s == "NaN" then zero else .inf x.neg
  | none =>
    let digits : Int := (toString x.mant).length
    if x.mant = 0 then .finite x.neg 0 0
    else if x.exp + digits > 330 then .inf x.neg
    else if x.exp + digits < -330 then .finite x.neg 0 0
    else if x.exp ≥ 0 then ofRatio x.neg (x.mant * Nat.pow 10 x.exp.toNat) 1 0
    else ofRatio x.neg x.mant (Nat.pow 10 (-x.exp).toNat) 0

def neg : Binary64 → Binary64
  | .finite n m e => .finite (!n) m e
  | .inf n => .inf (!n)

def isNeg : Binary64 → Bool
  | .finite n _ _ => n
  | .inf n => n

def signedParts (neg : Bool) (m : Nat) (e : Int) : Int × Int := (if neg then -(m : Int) else m, e)

def add? (a b : Binary64) : Option Binary64 :=
  match a, b with
  | .inf x, .inf y => if x == y then some (.inf x) else none
  | .inf x, _ => some (.inf x)
  | _, .inf y => some (.inf y)
  | .finite na ma ea, .finite nb mb eb =>
    let e := min ea eb
    let sa := (signedParts na ma ea).1 * (Nat.pow 2 (ea - e).toNat : Nat)
    let sb := (signedParts nb mb eb).1 * (Nat.pow 2 (eb - e).toNat : Nat)
    let s := sa + sb
    if s = 0 then some (.finite (na && nb) 0 0)
    else some (ofRatio (s < 0) s.natAbs 1 e)

def sub? (a b : Binary64) : Option Binary64 := add? a b.neg

def mul? (a b : Binary64) : Option Binary64 :=
  let n := a.isNeg != b.isNeg
  match a, b with
  | .inf _, .finite _ 0 _ => none
  | .finite _ 0 _, .inf _ => none
  | .inf _, _ => some (.inf n)
  | _, .inf _ => some (.inf n)
  | .finite _ ma ea, .finite _ mb eb => some (ofRatio n (ma * mb) 1 (ea + eb))

def div? (a b : Binary64) : Option Binary64 :=
  let n := a.isNeg != b.isNeg
  match a, b with
  | _, .finite _ 0 _ => none
  | .inf _, .inf _ => none
  | .inf _, _ => some (.inf n)
  | _, .inf _ => some (.finite n 0 0)
  | .finite _ ma ea, .finite _ mb eb => some (ofRatio n ma mb (ea - eb))

def fraction (m : Nat) (e : Int) : Nat × Nat :=
  if e ≥ 0 then (m * Nat.pow 2 e.toNat, 1) else (m, Nat.pow 2 (-e).toNat)

def cmp (a b : Binary64) : Ordering :=
  match a, b with
  | .inf x, .inf y => if x == y then .eq else if x then .lt else .gt
  | .inf x, _ => if x then .lt else .gt
  | _, .inf y => if y then .gt else .lt
  | .finite na ma ea, .finite nb mb eb =>
    let e := min ea eb
    let sa := (signedParts na ma ea).1 * (Nat.pow 2 (ea - e).toNat : Nat)
    let sb := (signedParts nb mb eb).1 * (Nat.pow 2 (eb - e).toNat : Nat)
    compare sa sb

def truncate : Binary64 → Int
  | .inf n => if n then -(Int.pow 2 63) else Int.pow 2 63 - 1
  | .finite n m e =>
    let (num, den) := fraction m e
    let q : Int := (num / den : Nat)
    if n then -q else q

def isWhole : Binary64 → Bool
  | .inf _ => false
  | .finite _ m e => let (num, den) := fraction m e; num % den == 0

def decade (num den : Nat) : Int :=
  let digitsNum : Int := (toString num).length
  let digitsDen : Int := (toString den).length
  let guess := digitsNum - digitsDen
  -- the guess is the decade or the one below it
  let atLeast (k : Int) : Bool :=
    if k ≥ 0 then num ≥ den * Nat.pow 10 k.toNat else num * Nat.pow 10 (-k).toNat ≥ den
  if atLeast guess then guess else guess - 1

def roundHalf (up : Bool) (num den : Nat) : Nat :=
  if up then (2 * num + den) / (2 * den) else Double.roundDiv num den

def scaledBy (num den : Nat) (p : Int) : Nat × Nat :=
  if p ≥ 0 then (num, den * Nat.pow 10 p.toNat) else (num * Nat.pow 10 (-p).toNat, den)

def shortestDigits (m : Nat) (e : Int) : Nat × Int :=
  -- The interval's ends are `(2m ± 1) × 2 ^ (e - 1)`, its lower end closer when `m` is the
  -- smallest mantissa of its binade; both ends belong to it when `m` is even.
  let lowerTight := m = Nat.pow 2 52 ∧ e > minExp
  let scale : Int := e - 2
  let lo : Nat := if lowerTight then 4 * m - 1 else 4 * m - 2
  let hi : Nat := 4 * m + 2
  let (num, den) := fraction m e
  let (sn, sd) := fraction 1 scale
  let inside (d : Nat) (p : Int) : Bool :=
    -- compares `d × 10 ^ p` with `lo × 2 ^ scale` and `hi × 2 ^ scale`
    let (vn, vd) := if p ≥ 0 then (d * Nat.pow 10 p.toNat, 1) else (d, Nat.pow 10 (-p).toNat)
    let left := vn * sd
    let loR := lo * sn * vd
    let hiR := hi * sn * vd
    if m % 2 == 0 then loR ≤ left ∧ left ≤ hiR else loR < left ∧ left < hiR
  let big := decade num den
  let rec search (k : Nat) (fuel : Nat) : Nat × Int :=
    match fuel with
    | 0 => (Double.roundDiv (scaledBy num den (big - 16)).1 (scaledBy num den (big - 16)).2, big - 16)
    | fuel + 1 =>
      let p : Int := big - (k : Int) + 1
      let (qn, qd) := scaledBy num den p
      let dLo := qn / qd
      let dHi := dLo + 1
      let loIn := dLo > 0 && inside dLo p
      let hiIn := inside dHi p
      if loIn && hiIn then
        -- the nearer of the two; their distances to the value are `qn - dLo qd` and `dHi qd - qn`
        let below := qn - dLo * qd
        let above := dHi * qd - qn
        if below < above || (below == above && dLo % 2 == 0) then (dLo, p) else (dHi, p)
      else if loIn then (dLo, p)
      else if hiIn then (dHi, p)
      else search (k + 1) fuel
  search 1 17

def toSci : Binary64 → Sci
  | .inf n => { neg := n, mant := 0, special := some (if n then "-Infinity" else "Infinity") }
  | .finite n 0 _ => { neg := n, mant := 0 }
  | .finite n m e => let (d, p) := shortestDigits m e; Sci.normalize { neg := n, mant := d, exp := p }

def significant (num den : Nat) (prec : Nat) : Nat × Int :=
  let big := decade num den
  let p := big - (prec : Int) + 1
  let (qn, qd) := scaledBy num den p
  let d := roundHalf true qn qd
  if d ≥ Nat.pow 10 prec then (d / 10, big + 1) else (d, big)

def toText : Binary64 → String
  | .inf n => if n then "-Inf" else "Inf"
  | .finite n 0 _ => if n then "-0.0" else "0.0"
  | .finite n m e =>
    let (num, den) := fraction m e
    let (d, big) := significant num den 15
    let ds := (toString d).toList
    let trimmed := (ds.reverse.dropWhile (· == '0')).reverse
    let trimmed := if trimmed.isEmpty then ['0'] else trimmed
    let sign := if n then "-" else ""
    if big < -4 ∨ big > 14 then
      let rest := trimmed.drop 1
      let mantissa := String.ofList (trimmed.take 1) ++ "." ++ (if rest.isEmpty then "0" else String.ofList rest)
      let ex := toString big.natAbs
      sign ++ mantissa ++ "e" ++ (if big < 0 then "-" else "+") ++ (if ex.length < 2 then "0" ++ ex else ex)
    else if big < 0 then
      sign ++ "0." ++ String.ofList (List.replicate ((-big).toNat - 1) '0') ++ String.ofList trimmed
    else
      let whole := big.toNat + 1
      let intPart := String.ofList (trimmed.take whole) ++ String.ofList (List.replicate (whole - trimmed.length) '0')
      let frac := trimmed.drop whole
      sign ++ intPart ++ "." ++ (if frac.isEmpty then "0" else String.ofList frac)

end Binary64
end Portal
