import Portal.Json.Basic
import Portal.Json.Write
/-! The literal form of a value, as the application's messages show values: strings in
single quotes (double quotes when the text holds a single quote and no double quote),
`None`, `True` and `False`, lists in brackets and objects as `{'key': value}`. -/
namespace Portal
namespace Text

def isPrintable (c : Char) : Bool :=
  let n := c.toNat
  if n < 0x20 ∨ n = 0x7f then false
  else if n < 0x7f then true
  else if n ≤ 0xa0 ∨ n = 0xad then false
  else if (0x2000 ≤ n ∧ n ≤ 0x200f) ∨ (0x2028 ≤ n ∧ n ≤ 0x202f) ∨ (0x205f ≤ n ∧ n ≤ 0x206f) then false
  else if n = 0x1680 ∨ n = 0x3000 ∨ n = 0xfeff ∨ (0xfff9 ≤ n ∧ n ≤ 0xfffb) then false
  else if (0xd800 ≤ n ∧ n ≤ 0xdfff) ∨ (0xe000 ≤ n ∧ n ≤ 0xf8ff) then false
  else if n = 0xfffe ∨ n = 0xffff then false
  else true

def quoteLiteral (s : String) : String :=
  let cs := s.toList
  let q : Char := if cs.contains '\'' ∧ ¬cs.contains '"' then '"' else '\''
  let esc (c : Char) : String :=
    if c = q ∨ c = '\\' then "\\" ++ c.toString
    else if c = '\t' then "\\t" else if c = '\n' then "\\n" else if c = '\r' then "\\r"
    else if isPrintable c then c.toString
    else if c.toNat ≤ 0xff then "\\x" ++ hexPad 2 c.toNat
    else if c.toNat ≤ 0xffff then "\\u" ++ hexPad 4 c.toNat
    else "\\U" ++ hexPad 8 c.toNat
  q.toString ++ String.join (cs.map esc) ++ q.toString

end Text

namespace Json

mutual
def literal : Json → String
  | .null => "None"
  | .bool b => if b then "True" else "False"
  | .int n => toString n
  | .float f => match f.special with
    | some "NaN" => "nan"
    | some "Infinity" => "inf"
    | some _ => "-inf"
    | none => f.render
  | .str s => Text.quoteLiteral s
  | .arr xs => "[" ++ literalItems xs ++ "]"
  | .obj kvs => "\x7b" ++ literalMembers kvs ++ "\x7d"

def literalItems : List Json → String
  | [] => ""
  | [x] => literal x
  | x :: xs => literal x ++ ", " ++ literalItems xs

def literalMembers : List (String × Json) → String
  | [] => ""
  | [(k, v)] => Text.quoteLiteral k ++ ": " ++ literal v
  | (k, v) :: kvs => Text.quoteLiteral k ++ ": " ++ literal v ++ ", " ++ literalMembers kvs
end

def toText : Json → String
  | .str s => s
  | j => literal j

end Json
end Portal
