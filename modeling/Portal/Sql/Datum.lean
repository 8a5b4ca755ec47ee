import Portal.Sql.Binary64
/-! The values a statement computes with. A value is null, a 64-bit integer, a double, a
text or a byte string; a column's declared type gives it an affinity, which decides how a
value is stored in it and how it is compared. Texts that spell numbers become numbers
where a numeric affinity asks for it; arithmetic reads the number a text begins with;
integer arithmetic that leaves the 64-bit range goes on in doubles. -/
namespace Portal
namespace Sql

inductive Datum where
  | null
  | int (n : Int)
  | real (x : Binary64)
  | text (s : String)
  | blob (hex : String)
  deriving DecidableEq, Repr, Inhabited

def occurs (w : List Char) : List Char → Bool
  | [] => w.isEmpty
  | c :: t => w.isPrefixOf (c :: t) || occurs w t

def dotParts (name : String) : List String := (name.toList.splitOn '.').map String.ofList

inductive Affinity where
  | integer
  | real
  | numeric
  | text
  | none
  deriving DecidableEq, Repr, Inhabited

namespace Affinity

def ofType (declared : String) : Affinity :=
  let t := declared.toUpper.toList
  let has (w : String) : Bool := occurs w.toList t
  if has "INT" then .integer
  else if has "CHAR" || has "CLOB" || has "TEXT" then .text
  else if has "BLOB" || t.all Char.isWhitespace then .none
  else if has "REAL" || has "FLOA" || has "DOUB" then .real
  else .numeric

def isNumeric : Affinity → Bool
  | .integer | .real | .numeric => true
  | _ => false

end Affinity

def maxInt : Int := Int.pow 2 63 - 1

def minInt : Int := -(Int.pow 2 63)

def fitsInt (n : Int) : Bool := minInt ≤ n && n ≤ maxInt

def isBlank (c : Char) : Bool := c = ' ' || c = '\t' || c = '\n' || c = '\r' || c = '\x0b' || c = '\x0c'

structure Scan where
  value : Sci
  decimal : Bool
  whole : Bool
  deriving Repr

def scanNumber (s : String) : Option Scan :=
  let cs := s.toList.dropWhile isBlank
  let (neg, cs) := match cs with
    | '-' :: r => (true, r)
    | '+' :: r => (false, r)
    | r => (false, r)
  let whole := cs.takeWhile Char.isDigit
  let r1 := cs.drop whole.length
  let (frac, point, r2) := match r1 with
    | '.' :: more => let f := more.takeWhile Char.isDigit; (f, true, more.drop f.length)
    | _ => ([], false, r1)
  if whole.isEmpty && frac.isEmpty then none else
  let (expo, hasExp, r3) := match r2 with
    | e :: more =>
      if e = 'e' || e = 'E' then
        let (sign, more') : Int × List Char := match more with
          | '-' :: m => (-1, m)
          | '+' :: m => (1, m)
          | m => (1, m)
        let ds := more'.takeWhile Char.isDigit
        if ds.isEmpty then ((0 : Int), false, r2)
        else (sign * (ds.foldl (fun (n : Nat) (c : Char) => n * 10 + (c.toNat - 48)) 0 : Nat), true,
          more'.drop ds.length)
      else (0, false, r2)
    | [] => (0, false, r2)
  let digits := whole ++ frac
  let mant := digits.foldl (fun (n : Nat) (c : Char) => n * 10 + (c.toNat - 48)) 0
  some { value := Sci.normalize { neg, mant, exp := expo - frac.length }, decimal := point || hasExp,
         whole := r3.all isBlank }

def leadingInt (s : String) : Int :=
  let cs := s.toList.dropWhile isBlank
  let (neg, cs) := match cs with
    | '-' :: r => (true, r)
    | '+' :: r => (false, r)
    | r => (false, r)
  let n : Int := ((cs.takeWhile Char.isDigit).foldl (fun (n : Nat) (c : Char) => n * 10 + (c.toNat - 48)) 0 : Nat)
  let v := if neg then -n else n
  if v > maxInt then maxInt else if v < minInt then minInt else v

namespace Datum

def typeName : Datum → String
  | .null => "null"
  | .int _ => "integer"
  | .real _ => "real"
  | .text _ => "text"
  | .blob _ => "blob"

def ofInt (n : Int) : Datum := if fitsInt n then .int n else .real (Binary64.ofInt n)

def hexDigit (n : Nat) : Char := if n < 10 then Char.ofNat (48 + n) else Char.ofNat (87 + n)

def hexOfBytes (bs : List UInt8) : String :=
  String.ofList (bs.flatMap fun b => [hexDigit (b.toNat / 16), hexDigit (b.toNat % 16)])

def hexValue (c : Char) : Nat :=
  if c.isDigit then c.toNat - 48 else if 'a' ≤ c && c ≤ 'f' then c.toNat - 87 else c.toNat - 55

def bytesOfHex : List Char → List UInt8
  | a :: b :: rest => (hexValue a * 16 + hexValue b).toUInt8 :: bytesOfHex rest
  | _ => []

def textOfHex (hex : String) : String :=
  let bs := bytesOfHex hex.toList
  match String.fromUTF8? (ByteArray.mk bs.toArray) with
  | some s => s
  | none => String.ofList (bs.map fun b => Char.ofNat b.toNat)

def hexOfText (s : String) : String := hexOfBytes s.toUTF8.toList

def toText? : Datum → Option String
  | .null => none
  | .int n => some (toString n)
  | .real x => some x.toText
  | .text s => some s
  | .blob h => some (textOfHex h)

def textOr (d : Datum) (dflt : String) : String := d.toText?.getD dflt

def numberOfScan (sc : Scan) (s : String) : Datum :=
  let r := Binary64.ofSci sc.value
  if !sc.decimal then
    let n := leadingInt s
    if sc.value.toInt == n then .int n else .real r
  else if r.isWhole && fitsInt r.truncate then .int r.truncate
  else .real r

def toNumber : Datum → Datum
  | .null => .null
  | .int n => .int n
  | .real x => .real x
  | .text s => match scanNumber s with
    | some sc => numberOfScan sc s
    | none => .int 0
  | .blob h => match scanNumber (textOfHex h) with
    | some sc => numberOfScan sc (textOfHex h)
    | none => .int 0

def toReal (d : Datum) : Binary64 :=
  match d.toNumber with
  | .int n => Binary64.ofInt n
  | .real x => x
  | _ => Binary64.zero

def truth? : Datum → Option Bool
  | .null => none
  | .int n => some (n != 0)
  | d => some (d.toReal.cmp Binary64.zero != .eq)

def integral : Datum → Datum
  | .real x => if x.isWhole && fitsInt x.truncate && x.truncate != maxInt && x.truncate != minInt then
      .int x.truncate else .real x
  | d => d

def withAffinity (a : Affinity) (d : Datum) : Datum :=
  match a, d with
  | .text, .int _ => .text (d.textOr "")
  | .text, .real _ => .text (d.textOr "")
  | .real, .int n => .real (Binary64.ofInt n)
  | .real, .text s => match scanNumber s with
    | some sc => if sc.whole then .real (Binary64.ofSci sc.value) else d
    | none => d
  | .integer, .real _ | .numeric, .real _ => d.integral
  | .integer, .text s | .numeric, .text s => match scanNumber s with
    | some sc => if sc.whole then numberOfScan sc s else d
    | none => d
  | _, _ => d

def numericForCompare : Datum → Datum
  | .text s => match scanNumber s with
    | some sc => if sc.whole then numberOfScan sc s else .text s
    | none => .text s
  | d => d

def textForCompare : Datum → Datum
  | .int n => .text (toString n)
  | .real x => .text x.toText
  | d => d

def cast (a : Affinity) (d : Datum) : Datum :=
  match d with
  | .null => .null
  | _ =>
  match a with
  | .integer => match d with
    | .int n => .int n
    | .real x => .int x.truncate
    | .text s => .int (leadingInt s)
    | .blob h => .int (leadingInt (textOfHex h))
    | .null => .null
  | .real => .real d.toReal
  | .numeric => match d with
    | .text _ | .blob _ => d.toNumber
    | _ => d
  | .text => .text (d.textOr "")
  | .none => match d with
    | .text s => .blob (hexOfText s)
    | .blob _ => d
    | _ => .blob (hexOfText (d.textOr ""))

def rank : Datum → Nat
  | .null => 0
  | .int _ | .real _ => 1
  | .text _ => 2
  | .blob _ => 3

end Datum

inductive Collation where
  | binary
  | nocase
  | rtrim
  deriving DecidableEq, Repr, Inhabited

namespace Collation

def ofName? (s : String) : Option Collation :=
  match s.toUpper with
  | "BINARY" => some .binary
  | "NOCASE" => some .nocase
  | "RTRIM" => some .rtrim
  | _ => none

def asciiLower (c : Char) : Char := if 'A' ≤ c && c ≤ 'Z' then Char.ofNat (c.toNat + 32) else c

def key (c : Collation) (s : String) : String :=
  match c with
  | .binary => s
  | .nocase => String.ofList (s.toList.map asciiLower)
  | .rtrim => String.ofList ((s.toList.reverse.dropWhile (· == ' ')).reverse)

end Collation

namespace Datum

def intAgainst (n : Int) : Binary64 → Ordering
  | .inf neg => if neg then .gt else .lt
  | .finite neg m e =>
    let (num, den) := Binary64.fraction m e
    compare (n * den) (if neg then -(num : Int) else num)

def order (coll : Collation) (a b : Datum) : Ordering :=
  match a, b with
  | .int x, .int y => compare x y
  | .int x, .real y => intAgainst x y
  | .real x, .int y => (intAgainst y x).swap
  | .real x, .real y => x.cmp y
  | .text x, .text y => compare (coll.key x) (coll.key y)
  | .blob x, .blob y => compare x y
  | _, _ => compare a.rank b.rank

end Datum
end Sql
end Portal
