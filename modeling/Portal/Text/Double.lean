/-! Binary floating point, as far as the application's reports need it: quotients of
whole numbers, products, and fixed-point text. A value is `mant × 2 ^ exp` with at most 53
significant bits; every operation rounds its exact result to the nearest such value, ties
to an even mantissa, so a report shows the same digits as a machine double would. -/
namespace Portal

structure Double where
  mant : Nat
  exp : Int
  deriving DecidableEq, Repr, Inhabited

namespace Double

def roundDiv (num den : Nat) : Nat :=
  let q := num / den
  let r := num % den
  if 2 * r > den || (2 * r == den && q % 2 == 1) then q + 1 else q

def shifted (num den : Nat) (s : Int) : Nat × Nat :=
  if s ≥ 0 then (num * Nat.pow 2 s.toNat, den) else (num, den * Nat.pow 2 (-s).toNat)

def round (num den : Nat) (e : Int) : Double :=
  if num = 0 ∨ den = 0 then ⟨0, 0⟩ else
  let s0 : Int := 52 - (Nat.log2 num : Int) + (Nat.log2 den : Int)
  let s := if (shifted num den s0).1 < Nat.pow 2 52 * (shifted num den s0).2 then s0 + 1 else s0
  let m := roundDiv (shifted num den s).1 (shifted num den s).2
  if m = Nat.pow 2 53 then ⟨Nat.pow 2 52, e - s + 1⟩ else ⟨m, e - s⟩

def ratio (num den : Nat) : Double := round num den 0

def ofNat (n : Nat) : Double := round n 1 0

def mul (x y : Double) : Double := round (x.mant * y.mant) 1 (x.exp + y.exp)

def percent (count total : Nat) : Double := mul (ratio count total) (ofNat 100)

def fixed (x : Double) (places : Nat) : String :=
  let num := x.mant * Nat.pow 2 x.exp.toNat * Nat.pow 10 places
  let den := Nat.pow 2 (-x.exp).toNat
  let q := roundDiv num den
  let whole := toString (q / Nat.pow 10 places)
  if places = 0 then whole else
  let frac := toString (q % Nat.pow 10 places)
  whole ++ "." ++ String.ofList (List.replicate (places - frac.length) '0') ++ frac

end Double

namespace Text

def alignRight (width : Nat) (s : String) : String :=
  String.ofList (List.replicate (width - s.length) ' ') ++ s

def alignLeft (width : Nat) (s : String) : String :=
  s ++ String.ofList (List.replicate (width - s.length) ' ')

end Text

end Portal
