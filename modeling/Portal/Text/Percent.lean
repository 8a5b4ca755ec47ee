import Portal.Json.Literal
import Portal.World
/-! Percent formatting of log messages. A message is a template whose `%` directives take
the arguments in turn: `%s` the text of a value, `%r` its literal form, `%d` and `%i` a
whole number, `%x`, `%X` and `%o` one in hexadecimal or octal, `%f` a number with six
decimals (or the precision given), `%c` a character and `%%` a percent sign. A directive
may carry a key in parentheses, flags (`-`, `+`, blank, `0`), a width and a precision. A
single object argument is a mapping: keyed directives look their value up in it. Too few
arguments, arguments left over, a value of the wrong kind or an unknown directive make
the formatting fail. -/
namespace Portal.Text

inductive FormatArgs where
  | items (xs : List Json)
  | mapping (kvs : List (String × Json))

structure Directive where
  key : Option String := none
  flags : List Char := []
  width : Nat := 0
  precision : Option Nat := none
  conv : Char

def digitValue (c : Char) : Nat := c.toNat - 48

def readNumber (cs : List Char) : Nat × List Char :=
  let ds := cs.takeWhile Char.isDigit
  (ds.foldl (fun n c => n * 10 + digitValue c) 0, cs.drop ds.length)

def readKey (depth : Nat) (acc : List Char) : List Char → Option (String × List Char)
  | [] => none
  | c :: rest =>
    if c = ')' then
      if depth = 0 then some (String.ofList acc.reverse, rest) else readKey (depth - 1) (c :: acc) rest
    else if c = '(' then readKey (depth + 1) (c :: acc) rest
    else readKey depth (c :: acc) rest

def failFormat (message : String) : Except Fault α := .error ⟨"ValueError", message⟩

def digitsIn (base : Nat) (n : Nat) (upper : Bool) : String :=
  let rec go (fuel n : Nat) (acc : List Char) : List Char :=
    match fuel with
    | 0 => acc
    | fuel + 1 =>
      let d := n % base
      let c := if d < 10 then Char.ofNat (48 + d) else Char.ofNat ((if upper then 55 else 87) + d)
      if n < base then c :: acc else go fuel (n / base) (c :: acc)
  String.ofList (go (n + 1) n [])

def readDirective (start : Nat) (cs : List Char) : Except Fault (Directive × List Char) := do
  let (key, cs) ← match cs with
    | '(' :: rest => match readKey 0 [] rest with
      | some (k, rest) => pure (some k, rest)
      | none => failFormat "incomplete format key"
    | _ => pure (none, cs)
  let flags := cs.takeWhile fun c => c = '-' || c = '+' || c = ' ' || c = '#' || c = '0'
  let cs := cs.drop flags.length
  let (width, cs) := readNumber cs
  let (precision, cs) := match cs with
    | '.' :: rest => let (p, rest) := readNumber rest; (some p, rest)
    | _ => (none, cs)
  let cs := match cs with
    | c :: rest => if c = 'h' || c = 'l' || c = 'L' then rest else c :: rest
    | [] => []
  match cs with
  | [] => failFormat "incomplete format"
  | c :: rest =>
    if "sradiuxXofFc%".toList.contains c then pure ({ key, flags, width, precision, conv := c }, rest)
    else
      let index := start + 1
      let shown := Text.quoteLiteral c.toString
      let code := digitsIn 16 c.toNat false
      failFormat s!"unsupported format character {shown} (0x{code}) at index {index}"

def padTo (d : Directive) (numeric : Bool) (s : String) : String :=
  let n := s.length
  if d.width ≤ n then s
  else
    let fill := d.width - n
    if d.flags.contains '-' then s ++ String.ofList (List.replicate fill ' ')
    else if numeric && d.flags.contains '0' then
      match s.toList with
      | c :: rest =>
        if c = '-' || c = '+' || c = ' ' then String.ofList (c :: List.replicate fill '0' ++ rest)
        else String.ofList (List.replicate fill '0') ++ s
      | [] => String.ofList (List.replicate fill '0')
    else String.ofList (List.replicate fill ' ') ++ s

def signOf (d : Directive) (neg : Bool) : String :=
  if neg then "-" else if d.flags.contains '+' then "+" else if d.flags.contains ' ' then " " else ""

def wholeOf (conv : Char) (v : Json) : Except Fault Int :=
  match v with
  | .int n => .ok n
  | .bool b => .ok (if b then 1 else 0)
  | .float f =>
    if conv = 'x' || conv = 'X' || conv = 'o' then
      .error ⟨"TypeError", s!"%{conv} format: an integer is required, not float"⟩
    else if f.special.isSome then .error ⟨"ValueError", "cannot convert float NaN to integer"⟩
    else .ok f.toInt
  | other =>
    if conv = 'x' || conv = 'X' || conv = 'o' then
      .error ⟨"TypeError", s!"%{conv} format: an integer is required, not {other.kindName}"⟩
    else .error ⟨"TypeError", s!"%{conv} format: a real number is required, not {other.kindName}"⟩

def fixed (places : Nat) (neg : Bool) (mant : Nat) (exp : Int) : Bool × String :=
  let scaled : Nat :=
    if exp + places ≥ 0 then mant * Nat.pow 10 (exp + places).toNat
    else
      let d := Nat.pow 10 (-(exp + places)).toNat
      let q := mant / d
      let r := mant % d
      if 2 * r > d || (2 * r = d && q % 2 = 1) then q + 1 else q
  let ds := toString scaled
  let ds := if ds.length ≤ places then String.ofList (List.replicate (places + 1 - ds.length) '0') ++ ds else ds
  let whole := String.ofList (ds.toList.take (ds.length - places))
  let frac := String.ofList (ds.toList.drop (ds.length - places))
  (neg, if places = 0 then whole else whole ++ "." ++ frac)

def applyDirective (d : Directive) (v : Json) : Except Fault String :=
  match d.conv with
  | 's' =>
    let s := v.toText
    .ok (padTo d false (match d.precision with | some p => String.ofList (s.toList.take p) | none => s))
  | 'r' | 'a' =>
    let s := v.literal
    .ok (padTo d false (match d.precision with | some p => String.ofList (s.toList.take p) | none => s))
  | 'c' => match v with
    | .int n => .ok (padTo d false (Char.ofNat n.toNat).toString)
    | .str s => if s.length = 1 then .ok (padTo d false s)
      else .error ⟨"TypeError", "%c requires int or char"⟩
    | _ => .error ⟨"TypeError", "%c requires int or char"⟩
  | 'f' | 'F' => do
    let (neg, mant, exp) ← match v with
      | .int n => pure (decide (n < 0), n.natAbs, (0 : Int))
      | .bool b => pure (false, if b then 1 else 0, (0 : Int))
      | .float f =>
        if f.special.isSome then pure (f.neg, 0, (0 : Int)) else pure (f.neg, f.mant, f.exp)
      | other => throw ⟨"TypeError", s!"must be real number, not {other.kindName}"⟩
    let (neg, body) := fixed (d.precision.getD 6) neg mant exp
    pure (padTo d true (signOf d neg ++ body))
  | conv => do
    let n ← wholeOf conv v
    let body := match conv with
      | 'x' => digitsIn 16 n.natAbs false
      | 'X' => digitsIn 16 n.natAbs true
      | 'o' => digitsIn 8 n.natAbs false
      | _ => toString n.natAbs
    pure (padTo d true (signOf d (decide (n < 0)) ++ body))

def formatGo (args : FormatArgs) (fuel : Nat) (index : Nat) (next : Nat) (acc : String) :
    List Char → Except Fault (String × Nat)
  | [] => .ok (acc, next)
  | c :: rest =>
    match fuel with
    | 0 => .ok (acc, next)
    | fuel + 1 =>
      if c ≠ '%' then formatGo args fuel (index + 1) next (acc.push c) rest
      else do
        let (d, after) ← readDirective index rest
        let used := rest.length - after.length + 1
        if d.conv = '%' && d.key.isNone then
          formatGo args fuel (index + used) next (acc.push '%') after
        else
          let (v, next) ← match d.key, args with
            | some k, .mapping kvs => match kvs.find? (·.1 == k) with
              | some (_, v) => pure (v, next)
              | none => throw (Fault.keyError k)
            | some _, .items _ => throw ⟨"TypeError", "format requires a mapping"⟩
            | none, .mapping kvs =>
              if next = 0 then pure (Json.obj kvs, 1)
              else throw ⟨"TypeError", "not enough arguments for format string"⟩
            | none, .items xs => match xs[next]? with
              | some v => pure (v, next + 1)
              | none => throw ⟨"TypeError", "not enough arguments for format string"⟩
          let s ← if d.conv = '%' then pure "%" else applyDirective d v
          formatGo args fuel (index + used) next (acc ++ s) after

def percentFormat (template : String) (args : FormatArgs) : Except Fault String := do
  let cs := template.toList
  let (out, used) ← formatGo args cs.length 0 0 "" cs
  match args with
  | .items xs =>
    if used < xs.length then .error ⟨"TypeError", "not all arguments converted during string formatting"⟩
    else pure out
  | .mapping _ => pure out

end Portal.Text
