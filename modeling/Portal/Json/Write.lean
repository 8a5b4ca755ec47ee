import Portal.Json.Basic
/-! JSON text from values. One record, `JsonStyle`, holds every choice a writer makes:
separators, indentation, key order and whether non-ASCII characters are escaped. -/
namespace Portal

structure JsonStyle where
  asciiOnly : Bool := false
  indent : Option Nat := none
  sortKeys : Bool := false
  itemSep : String := ", "
  keySep : String := ": "

namespace JsonStyle

def wire : JsonStyle := {}

def ascii : JsonStyle := { asciiOnly := true }

def pretty : JsonStyle := { asciiOnly := true, indent := some 2, sortKeys := true, itemSep := "," }

end JsonStyle

namespace Text

def hexDigit (n : Nat) : Char :=
  if n < 10 then Char.ofNat (48 + n) else Char.ofNat (87 + n)

def hexPad (width n : Nat) : String :=
  let rec go (k n : Nat) (acc : List Char) : List Char :=
    match k with
    | 0 => acc
    | k + 1 => go k (n / 16) (hexDigit (n % 16) :: acc)
  String.ofList (go width n [])

end Text

namespace Json

def quote (asciiOnly : Bool) (s : String) : String :=
  let esc (c : Char) : String :=
    if c = '"' then "\\\"" else if c = '\\' then "\\\\"
    else if c = '\n' then "\\n" else if c = '\r' then "\\r" else if c = '\t' then "\\t"
    else if c = '\x08' then "\\b" else if c = '\x0c' then "\\f"
    else if c.toNat < 0x20 then "\\u" ++ Text.hexPad 4 c.toNat
    else if asciiOnly ∧ c.toNat > 0x7e then
      if c.toNat < 0x10000 then "\\u" ++ Text.hexPad 4 c.toNat
      else
        let v := c.toNat - 0x10000
        "\\u" ++ Text.hexPad 4 (0xd800 + v / 0x400) ++ "\\u" ++ Text.hexPad 4 (0xdc00 + v % 0x400)
    else c.toString
  "\"" ++ String.join (s.toList.map esc) ++ "\""

def orderKeys (sortKeys : Bool) (kvs : List (String × Json)) : List (String × Json) :=
  if sortKeys then kvs.mergeSort (fun a b => decide (a.1 ≤ b.1)) else kvs

mutual
def renderAt (st : JsonStyle) (level : Nat) : Json → String
  | .null => "null"
  | .bool b => if b then "true" else "false"
  | .int n => toString n
  | .float f => f.render
  | .str s => quote st.asciiOnly s
  | .arr [] => "[]"
  | .arr xs => "[" ++ renderItems st (level + 1) true xs ++ closeAt st level ++ "]"
  | .obj [] => "{}"
  | .obj kvs => "\x7b" ++ renderMembers st (level + 1) true kvs ++ closeAt st level ++ "\x7d"

def renderItems (st : JsonStyle) (level : Nat) (first : Bool) : List Json → String
  | [] => ""
  | x :: xs => (if first then openAt st level else st.itemSep ++ openAt st level) ++
      renderAt st level x ++ renderItems st level false xs

def renderMembers (st : JsonStyle) (level : Nat) (first : Bool) : List (String × Json) → String
  | [] => ""
  | (k, v) :: kvs => (if first then openAt st level else st.itemSep ++ openAt st level) ++
      quote st.asciiOnly k ++ st.keySep ++ renderAt st level v ++ renderMembers st level false kvs

def openAt (st : JsonStyle) (level : Nat) : String :=
  match st.indent with
  | some n => "\n" ++ String.ofList (List.replicate (n * level) ' ')
  | none => ""

def closeAt (st : JsonStyle) (level : Nat) : String := openAt st level
end

mutual
def sortDeep : Json → Json
  | .arr xs => .arr (sortItems xs)
  | .obj kvs => .obj (orderKeys true (sortMembers kvs))
  | j => j

def sortItems : List Json → List Json
  | [] => []
  | x :: xs => sortDeep x :: sortItems xs

def sortMembers : List (String × Json) → List (String × Json)
  | [] => []
  | (k, v) :: kvs => (k, sortDeep v) :: sortMembers kvs
end

def renderWith (st : JsonStyle) (j : Json) : String :=
  renderAt st 0 (if st.sortKeys then sortDeep j else j)

def render (j : Json) : String := renderWith .wire j

end Json
end Portal
