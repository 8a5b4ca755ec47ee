import Portal.Json.Basic
/-! Reading JSON text. The reader takes the strict grammar (no trailing commas, no comments,
no control characters inside strings) plus the names `NaN`, `Infinity` and `-Infinity`.
A failure names what was expected and where, counted in characters from the start. -/
namespace Portal

structure JsonError where
  msg : String
  pos : Nat
  deriving Repr, Inhabited

namespace JsonError

def render (e : JsonError) (doc : String) : String :=
  let before := doc.toList.take e.pos
  let line := (before.filter (· = '\n')).length + 1
  let col := (before.reverse.takeWhile (· ≠ '\n')).length + 1
  s!"{e.msg}: line {line} column {col} (char {e.pos})"

end JsonError

namespace JsonRead

abbrev Doc := Array Char

def isBlank (c : Char) : Bool := c = ' ' || c = '\t' || c = '\n' || c = '\r'

def at? (d : Doc) (i : Nat) : Option Char := d[i]?

def skipBlank (d : Doc) (i : Nat) : Nat :=
  let rec go (i fuel : Nat) : Nat :=
    match fuel with
    | 0 => i
    | fuel + 1 => match d[i]? with
      | some c => if isBlank c then go (i + 1) fuel else i
      | none => i
  go i (d.size + 1)

def hexVal (c : Char) : Option Nat :=
  if '0' ≤ c ∧ c ≤ '9' then some (c.toNat - 48)
  else if 'a' ≤ c ∧ c ≤ 'f' then some (c.toNat - 87)
  else if 'A' ≤ c ∧ c ≤ 'F' then some (c.toNat - 55)
  else none

def hex4 (d : Doc) (i : Nat) : Option Nat := do
  let a ← hexVal (← d[i]?)
  let b ← hexVal (← d[i+1]?)
  let c ← hexVal (← d[i+2]?)
  let e ← hexVal (← d[i+3]?)
  some (((a * 16 + b) * 16 + c) * 16 + e)

def str (d : Doc) (begin : Nat) : Nat → Nat → List Char → Except JsonError (String × Nat)
  | 0, _, _ => .error ⟨"Unterminated string starting at", begin⟩
  | fuel + 1, i, acc =>
    match d[i]? with
    | none => .error ⟨"Unterminated string starting at", begin⟩
    | some '"' => .ok (String.ofList acc.reverse, i + 1)
    | some '\\' =>
      match d[i+1]? with
      | none => .error ⟨"Unterminated string starting at", begin⟩
      | some 'u' =>
        if i + 6 ≥ d.size then .error ⟨"Invalid \\uXXXX escape", i + 1⟩ else
        match hex4 d (i + 2) with
        | none => .error ⟨"Invalid \\uXXXX escape", i + 1⟩
        | some c =>
          if 0xd800 ≤ c ∧ c < 0xdc00 ∧ i + 12 < d.size ∧ d[i+6]? = some '\\' ∧ d[i+7]? = some 'u' then
            match hex4 d (i + 8) with
            | none => .error ⟨"Invalid \\uXXXX escape", i + 7⟩
            | some lo =>
              if 0xdc00 ≤ lo ∧ lo < 0xe000 then
                str d begin fuel (i + 12) (Char.ofNat (0x10000 + (c - 0xd800) * 0x400 + (lo - 0xdc00)) :: acc)
              else str d begin fuel (i + 6) (Char.ofNat 0xfffd :: acc)
          else if 0xd800 ≤ c ∧ c < 0xe000 then str d begin fuel (i + 6) (Char.ofNat 0xfffd :: acc)
          else str d begin fuel (i + 6) (Char.ofNat c :: acc)
      | some e =>
        let c? : Option Char := match e with
          | '"' => some '"' | '\\' => some '\\' | '/' => some '/'
          | 'b' => some '\x08' | 'f' => some '\x0c' | 'n' => some '\n'
          | 'r' => some '\r' | 't' => some '\t' | _ => none
        match c? with
        | some c => str d begin fuel (i + 2) (c :: acc)
        | none => .error ⟨"Invalid \\escape", i⟩
    | some c =>
      if c.toNat ≤ 0x1f then .error ⟨"Invalid control character at", i⟩
      else str d begin fuel (i + 1) (c :: acc)

def isDigit (c : Char) : Bool := '0' ≤ c && c ≤ '9'

def digitsEnd (d : Doc) (i : Nat) : Nat :=
  let rec go (i fuel : Nat) : Nat :=
    match fuel with
    | 0 => i
    | fuel + 1 => match d[i]? with
      | some c => if isDigit c then go (i + 1) fuel else i
      | none => i
  go i (d.size + 1)

def natOf (cs : List Char) : Nat := cs.foldl (fun n c => n * 10 + (c.toNat - 48)) 0

def number (d : Doc) (i : Nat) : Option (Json × Nat) :=
  let neg := d[i]? = some '-'
  let j := if neg then i + 1 else i
  let intEnd? : Option Nat := match d[j]? with
    | some '0' => some (j + 1)
    | some c => if isDigit c then some (digitsEnd d j) else none
    | none => none
  match intEnd? with
  | none => none
  | some k =>
    let intDigits := (d.extract j k).toList
    let (fracDigits, k) :=
      if d[k]? = some '.' ∧ (d[k+1]?.map isDigit) = some true then
        let e := digitsEnd d (k + 1)
        ((d.extract (k + 1) e).toList, e)
      else ([], k)
    let isFrac := k ≠ intEnd?.getD k
    let (expPart, k) :=
      if d[k]? = some 'e' ∨ d[k]? = some 'E' then
        let s := k + 1
        let (eneg, s') := match d[s]? with
          | some '-' => (true, s + 1)
          | some '+' => (false, s + 1)
          | _ => (false, s)
        let e := digitsEnd d s'
        if e > s' then (some ((if eneg then -1 else 1) * (natOf (d.extract s' e).toList : Int)), e)
        else (none, k)
      else (none, k)
    if ¬isFrac ∧ expPart.isNone then
      let n : Int := natOf intDigits
      some (.int (if neg then -n else n), k)
    else
      let mant := natOf (intDigits ++ fracDigits)
      let exp : Int := expPart.getD 0 - fracDigits.length
      let big := (toString mant).length + exp > 309
      if big ∧ mant ≠ 0 then some (.float { neg, mant := 0, special := some (if neg then "-Infinity" else "Infinity") }, k)
      else some (.float (Sci.normalize { neg, mant, exp }), k)

def word (d : Doc) (i : Nat) (w : String) : Bool :=
  (d.extract i (i + w.length)).toList = w.toList

mutual
def value (d : Doc) : Nat → Nat → Except JsonError (Json × Nat)
  | 0, i => .error ⟨"Expecting value", i⟩
  | fuel + 1, i =>
    match d[i]? with
    | none => .error ⟨"Expecting value", i⟩
    | some '"' => (str d i (d.size + 1) (i + 1) []).map fun (s, j) => (.str s, j)
    | some '{' => members d fuel (skipBlank d (i + 1)) [] true
    | some '[' => elements d fuel (skipBlank d (i + 1)) [] true
    | some c =>
      if c = 'n' ∧ word d i "null" then .ok (.null, i + 4)
      else if c = 't' ∧ word d i "true" then .ok (.bool true, i + 4)
      else if c = 'f' ∧ word d i "false" then .ok (.bool false, i + 5)
      else if c = 'N' ∧ word d i "NaN" then .ok (.float { mant := 0, special := some "NaN" }, i + 3)
      else if c = 'I' ∧ word d i "Infinity" then .ok (.float { mant := 0, special := some "Infinity" }, i + 8)
      else if c = '-' ∧ word d i "-Infinity" then
        .ok (.float { neg := true, mant := 0, special := some "-Infinity" }, i + 9)
      else match number d i with
        | some r => .ok r
        | none => .error ⟨"Expecting value", i⟩

def elements (d : Doc) : Nat → Nat → List Json → Bool → Except JsonError (Json × Nat)
  | 0, i, _, _ => .error ⟨"Expecting value", i⟩
  | fuel + 1, i, acc, first =>
    if first ∧ d[i]? = some ']' then .ok (.arr [], i + 1) else
    match value d fuel i with
    | .error e => .error e
    | .ok (v, j) =>
      let j := skipBlank d j
      match d[j]? with
      | some ']' => .ok (.arr (v :: acc).reverse, j + 1)
      | some ',' => elements d fuel (skipBlank d (j + 1)) (v :: acc) false
      | _ => .error ⟨"Expecting ',' delimiter", j⟩

def members (d : Doc) : Nat → Nat → List (String × Json) → Bool → Except JsonError (Json × Nat)
  | 0, i, _, _ => .error ⟨"Expecting value", i⟩
  | fuel + 1, i, acc, first =>
    if first ∧ d[i]? = some '}' then .ok (.obj [], i + 1) else
    if d[i]? ≠ some '"' then .error ⟨"Expecting property name enclosed in double quotes", i⟩ else
    match str d i (d.size + 1) (i + 1) [] with
    | .error e => .error e
    | .ok (k, j) =>
      let j := skipBlank d j
      if d[j]? ≠ some ':' then .error ⟨"Expecting ':' delimiter", j⟩ else
      match value d fuel (skipBlank d (j + 1)) with
      | .error e => .error e
      | .ok (v, j) =>
        let j := skipBlank d j
        match d[j]? with
        | some '}' => .ok (Json.ofMembers ((k, v) :: acc).reverse, j + 1)
        | some ',' => members d fuel (skipBlank d (j + 1)) ((k, v) :: acc) false
        | _ => .error ⟨"Expecting ',' delimiter", j⟩
end

end JsonRead

namespace Json

def parse (s : String) : Except JsonError Json :=
  let d := s.toList.toArray
  if d[0]? = some '\uFEFF' then .error ⟨"Unexpected UTF-8 BOM (decode using utf-8-sig)", 0⟩ else
  let i := JsonRead.skipBlank d 0
  match JsonRead.value d (2 * d.size + 2) i with
  | .error e => .error e
  | .ok (v, j) =>
    let j := JsonRead.skipBlank d j
    if j ≠ d.size then .error ⟨"Extra data", j⟩ else .ok v

def parseText (s : String) : Except String Json :=
  match parse s with
  | .ok v => .ok v
  | .error e => .error (e.render s)

end Json
end Portal
