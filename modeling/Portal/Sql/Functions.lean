import Portal.Sql.Datum
import Portal.Json.Read
/-! What the database computes from values: arithmetic, concatenation, bit operations, the
pattern operators, comparisons under affinity and collation, and the built-in functions.
Arithmetic reads numbers out of texts; integer results that leave the 64-bit range are
computed again in doubles; dividing by zero gives null. A comparison first brings a text
to a number when the other side has a numeric affinity, or a number to a text when the
other side has text affinity and this one none; null compares to nothing. -/
namespace Portal
namespace Sql

inductive ErrorKind where
  | operational
  | integrity
  | programming
  | overflow
  deriving DecidableEq, Repr, Inhabited

structure Error where
  kind : ErrorKind
  message : String
  deriving Repr, Inhabited

def ErrorKind.name : ErrorKind → String
  | .operational => "OperationalError"
  | .integrity => "IntegrityError"
  | .programming => "ProgrammingError"
  | .overflow => "OverflowError"

abbrev Run := Except Error

def operational {α : Type} (msg : String) : Run α := .error ⟨.operational, msg⟩

def integrity {α : Type} (msg : String) : Run α := .error ⟨.integrity, msg⟩

namespace Datum

def isNull : Datum → Bool
  | .null => true
  | _ => false

def toInt : Datum → Int
  | .int n => n
  | .real x => x.truncate
  | .text s => leadingInt s
  | .blob h => leadingInt (textOfHex h)
  | .null => 0

def ofBool (b : Bool) : Datum := .int (if b then 1 else 0)

def ofTruth : Option Bool → Datum
  | some b => ofBool b
  | none => .null

end Datum

inductive ArithOp where
  | add
  | sub
  | mul
  | div
  | rem
  deriving DecidableEq, Repr

def realArith (op : ArithOp) (a b : Binary64) : Datum :=
  let r : Option Binary64 := match op with
    | .add => a.add? b
    | .sub => a.sub? b
    | .mul => a.mul? b
    | .div => a.div? b
    | .rem =>
      let x := a.truncate
      let y := b.truncate
      if y == 0 then none else some (Binary64.ofInt (x.tmod (if y == -1 then 1 else y)))
  match r with
  | some x => .real x
  | none => .null

def arith (op : ArithOp) (a b : Datum) : Datum :=
  match a.toNumber, b.toNumber with
  | .null, _ => .null
  | _, .null => .null
  | .int x, .int y =>
    let exact : Option Int := match op with
      | .add => some (x + y)
      | .sub => some (x - y)
      | .mul => some (x * y)
      | .div => if y == 0 then none else some (x.tdiv y)
      | .rem => if y == 0 then none else some (x.tmod (if y == -1 then 1 else y))
    match exact with
    | none => .null
    | some r => if fitsInt r then .int r else realArith op (Binary64.ofInt x) (Binary64.ofInt y)
  | x, y => realArith op x.toReal y.toReal

def wrap64 (n : Int) : Int :=
  let m := n % (Int.pow 2 64)
  if m ≥ Int.pow 2 63 then m - Int.pow 2 64 else m

def shiftLeft (a : Int) (s : Int) : Int :=
  if s ≥ 64 then 0 else if s ≤ -64 then (if a < 0 then -1 else 0)
  else if s ≥ 0 then wrap64 (a * Int.pow 2 s.toNat)
  else Int.fdiv a (Int.pow 2 (-s).toNat)

def bitOp (op : String) (a b : Datum) : Datum :=
  if a.isNull || b.isNull then .null else
  let x := a.toInt
  let y := b.toInt
  let ux := (wrap64 x + Int.pow 2 64) % Int.pow 2 64
  let uy := (wrap64 y + Int.pow 2 64) % Int.pow 2 64
  match op with
  | "&" => .int (wrap64 (Int.ofNat (ux.toNat &&& uy.toNat)))
  | "|" => .int (wrap64 (Int.ofNat (ux.toNat ||| uy.toNat)))
  | "<<" => .int (shiftLeft x y)
  | _ => .int (shiftLeft x (-y))

def concatText (a b : Datum) : Datum :=
  match a.toText?, b.toText? with
  | some x, some y => .text (x ++ y)
  | _, _ => .null

structure Side where
  affinity : Affinity := .none
  explicit : Option Collation := none
  declared : Option Collation := none
  deriving Inhabited

def Side.collation (l r : Side) : Collation :=
  (l.explicit <|> r.explicit <|> l.declared <|> r.declared).getD .binary

def comparable (l r : Side) (a b : Datum) : Datum × Datum :=
  if l.affinity.isNumeric && !r.affinity.isNumeric then (a, b.numericForCompare)
  else if r.affinity.isNumeric && !l.affinity.isNumeric then (a.numericForCompare, b)
  else if l.affinity == .text && r.affinity == .none then (a, b.textForCompare)
  else if r.affinity == .text && l.affinity == .none then (a.textForCompare, b)
  else (a, b)

def compareSides (l r : Side) (a b : Datum) : Option Ordering :=
  if a.isNull || b.isNull then none else
  let (x, y) := comparable l r a b
  some (Datum.order (Side.collation l r) x y)

def sameSides (l r : Side) (a b : Datum) : Bool :=
  match a, b with
  | .null, .null => true
  | .null, _ => false
  | _, .null => false
  | _, _ => compareSides l r a b == some .eq

def likeFrom (esc : Option Char) (fuel : Nat) (p s : List Char) : Bool :=
  match fuel with
  | 0 => false
  | fuel + 1 =>
    match p with
    | [] => s.isEmpty
    | c :: ps =>
      if esc == some c then
        match ps, s with
        | q :: qs, x :: xs => Collation.asciiLower q == Collation.asciiLower x && likeFrom esc fuel qs xs
        | _, _ => false
      else if c == '%' then (List.range (s.length + 1)).any fun i => likeFrom esc fuel ps (s.drop i)
      else match s with
        | [] => false
        | x :: xs => (c == '_' || Collation.asciiLower c == Collation.asciiLower x) && likeFrom esc fuel ps xs

def likeMatch (esc : Option Char) (p s : List Char) : Bool := likeFrom esc (p.length + 1) p s

def globClass (cs : List Char) : List Char × List Char :=
  match cs with
  | ']' :: rest => let body := rest.takeWhile (· != ']'); (']' :: body, rest.drop (body.length + 1))
  | _ => let body := cs.takeWhile (· != ']'); (body, cs.drop (body.length + 1))

def inGlobClass (c : Char) : List Char → Bool
  | a :: '-' :: b :: rest => (a ≤ c && c ≤ b) || inGlobClass c rest
  | a :: rest => a == c || inGlobClass c rest
  | [] => false

def globFrom (fuel : Nat) (p s : List Char) : Bool :=
  match fuel with
  | 0 => false
  | fuel + 1 =>
    match p with
    | [] => s.isEmpty
    | '*' :: ps => (List.range (s.length + 1)).any fun i => globFrom fuel ps (s.drop i)
    | '?' :: ps => match s with
      | [] => false
      | _ :: xs => globFrom fuel ps xs
    | '[' :: ps => match s with
      | [] => false
      | x :: xs =>
        let (negated, body) := match ps with
          | '^' :: more => (true, more)
          | more => (false, more)
        let (cls, rest) := globClass body
        (inGlobClass x cls != negated) && globFrom fuel rest xs
    | c :: ps => match s with
      | [] => false
      | x :: xs => c == x && globFrom fuel ps xs

def globMatch (p s : List Char) : Bool := globFrom (p.length + 1) p s

def Datum.len : Datum → Option Nat
  | .null => none
  | .blob h => some (h.length / 2)
  | d => d.toText?.map String.length

def Datum.quote : Datum → String
  | .null => "NULL"
  | .int n => toString n
  | .real x => x.toText
  | .text s => "'" ++ String.intercalate "''" (s.splitOn "'") ++ "'"
  | .blob h => "X'" ++ h.toUpper ++ "'"

def substrRange (len : Int) (p : Int) (n : Option Int) : Nat × Nat :=
  let (p2, negP2) := match n with
    | some k => if k < 0 then (-k, true) else (k, false)
    | none => (len + 1, false)
  let (p1, p2) :=
    if p < 0 then
      let p1 := p + len
      if p1 < 0 then (0, max 0 (p2 + p1)) else (p1, p2)
    else if p > 0 then (p - 1, p2)
    else (0, if p2 > 0 then p2 - 1 else p2)
  let (p1, p2) := if negP2 then
      let q := p1 - p2
      if q < 0 then (0, p2 + q) else (q, p2)
    else (p1, p2)
  (p1.toNat, p2.toNat)

def trimChars (set : List Char) (left right : Bool) (s : String) : String :=
  let cs := s.toList
  let cs := if left then cs.dropWhile set.contains else cs
  let cs := if right then (cs.reverse.dropWhile set.contains).reverse else cs
  String.ofList cs

def roundReal (x : Binary64) (places : Nat) : Binary64 :=
  match x with
  | .inf _ => x
  | .finite neg m e =>
    let (num, den) := Binary64.fraction m e
    let scale := Nat.pow 10 places
    let q := (2 * num * scale + den) / (2 * den)
    Binary64.ofRatio neg q scale 0

def libraryVersion : String := "3.40.1"

def scalarArity (name : String) : Option (Nat × Option Nat) :=
  match name with
  | "ABS" | "HEX" | "LENGTH" | "LOWER" | "UPPER" | "QUOTE" | "TYPEOF" | "UNICODE" | "ZEROBLOB"
  | "SIGN" | "JSON_VALID" | "LIKELY" | "UNLIKELY" | "RANDOMBLOB" => some (1, some 1)
  | "IFNULL" | "NULLIF" | "INSTR" | "LIKELIHOOD" => some (2, some 2)
  | "IIF" | "REPLACE" => some (3, some 3)
  | "COALESCE" => some (2, none)
  | "CHAR" => some (0, none)
  | "LTRIM" | "RTRIM" | "TRIM" | "ROUND" => some (1, some 2)
  | "SUBSTR" | "SUBSTRING" => some (2, some 3)
  | "LIKE" => some (2, some 3)
  | "GLOB" => some (2, some 2)
  | "MAX" | "MIN" => some (2, none)
  | "SQLITE_VERSION" | "CHANGES" | "TOTAL_CHANGES" | "LAST_INSERT_ROWID" | "RANDOM" => some (0, some 0)
  | "PRINTF" | "FORMAT" => some (1, none)
  | _ => none

def aggregateArity (name : String) : Option (Nat × Nat) :=
  match name with
  | "COUNT" => some (0, 1)
  | "SUM" | "TOTAL" | "AVG" => some (1, 1)
  | "MAX" | "MIN" => some (1, 1)
  | "GROUP_CONCAT" => some (1, 2)
  | _ => none

def isAggregateCall (name : String) (argc : Nat) : Bool :=
  match aggregateArity name.toUpper with
  | some (lo, hi) => lo ≤ argc && argc ≤ hi
  | none => false

def printfText (fmt : String) (args : List Datum) : String :=
  let rec go (cs : List Char) (args : List Datum) (fuel : Nat) : String :=
    match fuel with
    | 0 => ""
    | fuel + 1 =>
      match cs with
      | '%' :: '%' :: rest => "%" ++ go rest args fuel
      | '%' :: c :: rest =>
        let (a, more) := match args with
          | a :: more => (a, more)
          | [] => (.null, [])
        let piece := match c with
          | 'd' | 'i' => toString a.toInt
          | 's' => a.textOr ""
          | 'f' =>
            let x := a.toReal
            let r := roundReal x 6
            match r with
            | .finite neg m e =>
              let (num, den) := Binary64.fraction m e
              let q := (2 * num * Nat.pow 10 6 + den) / (2 * den)
              let whole := toString (q / Nat.pow 10 6)
              let frac := toString (q % Nat.pow 10 6)
              (if neg then "-" else "") ++ whole ++ "." ++ String.ofList (List.replicate (6 - frac.length) '0') ++ frac
            | .inf neg => if neg then "-Inf" else "Inf"
          | _ => ""
        piece ++ go rest more fuel
      | c :: rest => c.toString ++ go rest args fuel
      | [] => ""
  go fmt.toList args (fmt.length + 1)

def scalar (name : String) (args : List Datum) : Run Datum :=
  let a0 := args.headD .null
  let a1 := args.getD 1 .null
  let a2 := args.getD 2 .null
  match name with
  | "ABS" => match a0.toNumber with
    | .int n => if n == minInt then .error ⟨.operational, "integer overflow"⟩ else pure (.int n.natAbs)
    | .real x => pure (.real (if x.isNeg then x.neg else x))
    | d => pure d
  | "HEX" => pure (.text (match a0 with
    | .blob h => h.toUpper
    | .null => ""
    | d => (Datum.hexOfText (d.textOr "")).toUpper))
  | "LENGTH" => pure (match a0.len with
    | some n => .int n
    | none => .null)
  | "LOWER" => pure (match a0.toText? with
    | some s => .text (String.ofList (s.toList.map Collation.asciiLower))
    | none => .null)
  | "UPPER" => pure (match a0.toText? with
    | some s => .text (String.ofList (s.toList.map fun c => if 'a' ≤ c && c ≤ 'z' then Char.ofNat (c.toNat - 32) else c))
    | none => .null)
  | "QUOTE" => pure (.text a0.quote)
  | "TYPEOF" => pure (.text a0.typeName)
  | "UNICODE" => pure (match a0.toText? with
    | some s => match s.toList.head? with
      | some c => .int c.toNat
      | none => .null
    | none => .null)
  | "ZEROBLOB" => pure (.blob (String.ofList (List.replicate (2 * a0.toInt.toNat) '0')))
  | "SIGN" => pure (match a0.toNumber with
    | .int n => .int (if n > 0 then 1 else if n < 0 then -1 else 0)
    | .real x => .int (match x.cmp Binary64.zero with
      | .gt => 1
      | .lt => -1
      | .eq => 0)
    | _ => .null)
  | "JSON_VALID" => pure (match a0.toText? with
    | some s => Datum.ofBool (match Json.parse s with
      | .ok _ => true
      | .error _ => false)
    | none => .null)
  | "LIKELY" | "UNLIKELY" | "LIKELIHOOD" => pure a0
  | "IFNULL" => pure (if a0.isNull then a1 else a0)
  | "NULLIF" => pure (if sameSides {} {} a0 a1 && !a0.isNull then .null else a0)
  | "COALESCE" => pure ((args.find? (!·.isNull)).getD .null)
  | "IIF" => pure (if a0.truth? == some true then a1 else a2)
  | "INSTR" => pure (match a0.toText?, a1.toText? with
    | some h, some n =>
      let hs := h.toList
      let ns := n.toList
      let idx := (List.range (hs.length + 1)).find? fun i => (hs.drop i).take ns.length == ns
      .int (match idx with
        | some i => if ns.length ≤ hs.length - i then i + 1 else 0
        | none => 0)
    | _, _ => .null)
  | "REPLACE" => pure (match a0.toText?, a1.toText?, a2.toText? with
    | some s, some f, some r => if f.isEmpty then .text s else .text (String.intercalate r (s.splitOn f))
    | _, _, _ => .null)
  | "CHAR" => pure (.text (String.ofList (args.map fun d => Char.ofNat d.toInt.toNat)))
  | "LTRIM" | "RTRIM" | "TRIM" =>
    let set := if args.length > 1 then (a1.textOr "").toList else [' ']
    pure (match a0.toText? with
      | some s => if args.length > 1 && a1.isNull then .null else
        .text (trimChars set (name != "RTRIM") (name != "LTRIM") s)
      | none => .null)
  | "ROUND" =>
    if a0.isNull then pure .null else
    let places := if args.length > 1 then max 0 (min 30 a1.toInt) else 0
    pure (.real (roundReal a0.toReal places.toNat))
  | "SUBSTR" | "SUBSTRING" =>
    if a0.isNull || a1.isNull || (args.length > 2 && a2.isNull) then pure .null else
    let n := if args.length > 2 then some a2.toInt else none
    match a0 with
    | .blob h =>
      let (p, k) := substrRange (h.length / 2) a1.toInt n
      pure (.blob (String.ofList ((h.toList.drop (2 * p)).take (2 * k))))
    | d =>
      let s := (d.textOr "").toList
      let (p, k) := substrRange s.length a1.toInt n
      pure (.text (String.ofList ((s.drop p).take k)))
  | "LIKE" =>
    if a0.isNull || a1.isNull then pure .null else
    let esc := if args.length > 2 then (a2.textOr "").toList.head? else none
    pure (Datum.ofBool (likeMatch esc (a0.textOr "").toList (a1.textOr "").toList))
  | "GLOB" =>
    if a0.isNull || a1.isNull then pure .null else
    pure (Datum.ofBool (globMatch (a0.textOr "").toList (a1.textOr "").toList))
  | "MAX" | "MIN" =>
    if args.any (·.isNull) then pure .null else
    let pick (x y : Datum) : Datum :=
      let o := Datum.order .binary x y
      if name == "MAX" then (if o == .lt then y else x) else (if o == .gt then y else x)
    pure (args.foldl pick a0)
  | "SQLITE_VERSION" => pure (.text libraryVersion)
  | "CHANGES" | "TOTAL_CHANGES" | "LAST_INSERT_ROWID" | "RANDOM" => pure (.int 0)
  | "RANDOMBLOB" => pure (.blob (String.ofList (List.replicate (2 * max 1 a0.toInt.toNat) '0')))
  | "PRINTF" | "FORMAT" => pure (match a0.toText? with
    | some f => .text (printfText f (args.drop 1))
    | none => .null)
  | _ => operational ("no such function: " ++ name)

end Sql
end Portal
