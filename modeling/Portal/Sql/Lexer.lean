import Portal.Json.Basic
/-! Cutting a statement into tokens. A token is a word (a keyword or a plain name), a quoted
name, a text, a blob written in hexadecimal, a whole or decimal number, a parameter mark,
or an operator; blanks and comments separate tokens. Each token remembers where it stands
in the statement, so that a result column can be named by the text of its expression. A
piece of text that is no token ends the list with a token that carries the message the
database gives, so that a statement read before it stays good. -/
namespace Portal
namespace Sql

inductive Tok where
  | word (s : String)
  | name (s : String) (doubled : Bool)
  | text (s : String)
  | blob (hex : String)
  | int (n : Nat)
  | real (x : Sci)
  | param (n : Option Nat)
  | named (s : String)
  | sym (s : String)
  | bad (message : String)
  deriving Repr, Inhabited

structure Token where
  tok : Tok
  start : Nat
  stop : Nat
  deriving Repr, Inhabited

def Tok.isWord (t : Tok) (w : String) : Bool :=
  match t with
  | .word s => s.toUpper == w
  | _ => false

def Tok.isSym (t : Tok) (s : String) : Bool :=
  match t with
  | .sym x => x == s
  | _ => false

def isNameStart (c : Char) : Bool := c.isAlpha || c = '_' || c.toNat ≥ 0x80

def isNameChar (c : Char) : Bool := c.isAlphanum || c = '_' || c = '$' || c.toNat ≥ 0x80

def isSpace (c : Char) : Bool := c = ' ' || c = '\t' || c = '\n' || c = '\r' || c = '\x0b' || c = '\x0c'

def isHexDigit (c : Char) : Bool := c.isDigit || ('a' ≤ c && c ≤ 'f') || ('A' ≤ c && c ≤ 'F')

def unrecognized (cs : List Char) : String := "unrecognized token: \"" ++ String.ofList cs ++ "\""

def readQuoted (close : Char) (doubling : Bool) : List Char → Option (List Char × List Char)
  | [] => none
  | c :: rest =>
    if c = close then
      match rest with
      | d :: more => if doubling && d = close then (readQuoted close doubling more).map fun (t, r) => (c :: t, r)
        else some ([], rest)
      | [] => some ([], [])
    else (readQuoted close doubling rest).map fun (t, r) => (c :: t, r)

def decimalOf (whole frac : List Char) (expo : Int) : Sci :=
  let digits := whole ++ frac
  let mant := digits.foldl (fun n c => n * 10 + (c.toNat - 48)) 0
  Sci.normalize { mant, exp := expo - frac.length }

def readNumber (cs : List Char) : Except String (Tok × Nat × List Char) :=
  match cs with
  | '0' :: x :: rest =>
    if x = 'x' || x = 'X' then
      let hex := rest.takeWhile isHexDigit
      let after := rest.drop hex.length
      if hex.isEmpty || (after.head?.map isNameChar).getD false then
        .error (unrecognized (cs.take (2 + hex.length + (after.takeWhile isNameChar).length)))
      else
        let n := hex.foldl (fun n c => n * 16 + (if c.isDigit then c.toNat - 48 else (c.toLower.toNat - 87))) 0
        .ok (.int n, 2 + hex.length, after)
    else readDecimal cs
  | _ => readDecimal cs
where
  readDecimal (cs : List Char) : Except String (Tok × Nat × List Char) :=
    let whole := cs.takeWhile Char.isDigit
    let r1 := cs.drop whole.length
    let (frac, hasPoint, r2) := match r1 with
      | '.' :: more => let f := more.takeWhile Char.isDigit; (f, true, more.drop f.length)
      | _ => ([], false, r1)
    let (expo, hasExp, r3, expLen) := match r2 with
      | e :: more =>
        if e = 'e' || e = 'E' then
          let (sign, more') := match more with
            | '-' :: m => (-1, m)
            | '+' :: m => (1, m)
            | m => (1, m)
          let ds := more'.takeWhile Char.isDigit
          if ds.isEmpty then ((0 : Int), false, r2, 0)
          else (sign * (ds.foldl (fun (n : Nat) (c : Char) => n * 10 + (c.toNat - 48)) 0 : Nat), true, more'.drop ds.length,
            1 + (more.length - more'.length) + ds.length)
        else (0, false, r2, 0)
      | [] => (0, false, r2, 0)
    let taken := whole.length + (if hasPoint then 1 + frac.length else 0) + expLen
    if (r3.head?.map isNameChar).getD false then
      .error (unrecognized (cs.take (taken + (r3.takeWhile isNameChar).length)))
    else if hasPoint || hasExp then .ok (.real (decimalOf whole frac expo), taken, r3)
    else .ok (.int (whole.foldl (fun (n : Nat) (c : Char) => n * 10 + (c.toNat - 48)) 0), taken, r3)

def twoCharSymbols : List String := ["||", "<=", ">=", "<>", "!=", "==", "<<", ">>"]

def oneCharSymbols : List Char := ['+', '-', '*', '/', '%', '=', '<', '>', '(', ')', ',', '.', ';', '&', '|', '~']

def lexFrom (fuel : Nat) (pos : Nat) (cs : List Char) : List Token :=
  match fuel with
  | 0 => []
  | fuel + 1 =>
    match cs with
    | [] => []
    | c :: rest =>
      let next (t : Tok) (n : Nat) (after : List Char) : List Token :=
        ⟨t, pos, pos + n⟩ :: lexFrom fuel (pos + n) after
      let fail (msg : String) : List Token := [⟨.bad msg, pos, pos + cs.length⟩]
      if isSpace c then lexFrom fuel (pos + 1) rest
      else if c = '-' && rest.head? == some '-' then
        let line := rest.takeWhile (· ≠ '\n')
        lexFrom fuel (pos + 1 + line.length) (rest.drop line.length)
      else if c = '/' && rest.head? == some '*' then
        let body := rest.drop 1
        let rec skip (k : Nat) : List Char → Nat × List Char
          | '*' :: '/' :: more => (k + 2, more)
          | _ :: more => skip (k + 1) more
          | [] => (k, [])
        let (n, after) := skip 0 body
        lexFrom fuel (pos + 2 + n) after
      else if c = '\'' then
        match readQuoted '\'' true rest with
        | some (t, after) => next (.text (String.ofList t)) (cs.length - after.length) after
        | none => fail (unrecognized cs)
      else if c = '"' || c = '`' then
        match readQuoted c true rest with
        | some (t, after) => next (.name (String.ofList t) (c = '"')) (cs.length - after.length) after
        | none => fail (unrecognized cs)
      else if c = '[' then
        match readQuoted ']' false rest with
        | some (t, after) => next (.name (String.ofList t) false) (cs.length - after.length) after
        | none => fail (unrecognized cs)
      else if (c = 'x' || c = 'X') && rest.head? == some '\'' then
        match readQuoted '\'' false (rest.drop 1) with
        | some (t, after) =>
          if t.length % 2 == 0 && t.all isHexDigit then
            next (.blob (String.ofList (t.map Char.toLower))) (cs.length - after.length) after
          else fail (unrecognized (cs.take (cs.length - after.length)))
        | none => fail (unrecognized cs)
      else if c.isDigit || (c = '.' && (rest.head?.map Char.isDigit).getD false) then
        match readNumber cs with
        | .ok (t, n, after) => next t n after
        | .error e => fail e
      else if isNameStart c then
        let w := cs.takeWhile isNameChar
        next (.word (String.ofList w)) w.length (cs.drop w.length)
      else if c = '?' then
        let ds := rest.takeWhile Char.isDigit
        let n := ds.foldl (fun (n : Nat) (c : Char) => n * 10 + (c.toNat - 48)) 0
        next (.param (if ds.isEmpty then none else some n)) (1 + ds.length) (rest.drop ds.length)
      else if c = ':' || c = '@' || c = '$' then
        let w := rest.takeWhile isNameChar
        if w.isEmpty then fail (unrecognized [c])
        else next (.named (String.ofList (c :: w))) (1 + w.length) (rest.drop w.length)
      else
        let two := String.ofList (cs.take 2)
        if twoCharSymbols.contains two then next (.sym two) 2 (cs.drop 2)
        else if oneCharSymbols.contains c then next (.sym c.toString) 1 rest
        else fail (unrecognized [c])

def lex (s : String) : List Token := lexFrom (s.length + 1) 0 s.toList

end Sql
end Portal
