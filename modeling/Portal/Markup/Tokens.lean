import Portal.Markup.References
/-! Reading HTML into a stream of tokens, as a forgiving browser-era reader does. Text runs
until a `<` or `&`; a `<` followed by a letter opens a tag, whose attributes may be quoted
either way or bare; `</` closes one; comments, declarations and processing instructions are
skipped. References are reported as tokens of their own, by name or by number, when a
character that cannot continue them follows. Inside `script` and `style` everything up to
the closing tag is text.

Reading happens in passes over the same text: a pass stops at a construct it cannot yet
finish and the next pass resumes there. Only the last pass, which knows the text has
ended, turns what is left into text. -/
namespace Portal
namespace Markup

inductive Token where
  | start (name : String) (attrs : List (String × Option String))
  | empty (name : String) (attrs : List (String × Option String))
  | close (name : String)
  | text (s : String)
  | named (name : String)
  | numeric (digits : String)
  deriving Repr, Inhabited, BEq

def isBlank (c : Char) : Bool :=
  let n := c.toNat
  c == ' ' || (9 ≤ n && n ≤ 13) || (0x1c ≤ n && n ≤ 0x1f) || n == 0x85 || n == 0xa0 || n == 0x1680 ||
    (0x2000 ≤ n && n ≤ 0x200a) || n == 0x2028 || n == 0x2029 || n == 0x202f || n == 0x205f || n == 0x3000

def isAsciiLetter (c : Char) : Bool := ('a' ≤ c && c ≤ 'z') || ('A' ≤ c && c ≤ 'Z')

def isHexDigit (c : Char) : Bool := c.isDigit || ('a' ≤ c && c ≤ 'f') || ('A' ≤ c && c ≤ 'F')

section Scanning
variable (s : Array Char)

def at? (i : Nat) : Option Char := s[i]?

def charAt (i : Nat) : Char := s.getD i '\x00'

def slice (i j : Nat) : String := String.ofList ((s.extract i j).toList)

def findFrom (p : Char → Bool) (i : Nat) : Option Nat :=
  ((List.range (s.size - i)).find? fun d => p (charAt s (i + d))).map (i + ·)

def startsAt (t : String) (i : Nat) (ignoreCase : Bool := false) : Bool :=
  let cs := t.toList
  i + cs.length ≤ s.size && (cs.zip (List.range cs.length)).all fun (c, d) =>
    let x := charAt s (i + d)
    if ignoreCase then x.toLower == c.toLower else x == c

def findText (t : String) (i : Nat) (ignoreCase : Bool := false) : Option Nat :=
  ((List.range (s.size + 1 - i)).find? fun d => startsAt s t (i + d) ignoreCase).map (i + ·)

def skipWhile (p : Char → Bool) (i : Nat) : Nat := (findFrom s (fun c => !p c) i).getD s.size

def skipSeparators (i : Nat) : Nat :=
  let rec go (fuel i : Nat) : Nat :=
    match fuel with
    | 0 => i
    | fuel + 1 =>
      match at? s i with
      | some c =>
        if isBlank c then go fuel (i + 1)
        else if c == '/' && at? s (i + 1) != some '>' then go fuel (i + 1)
        else i
      | none => i
  go (s.size + 1) i

def tagNameEnd (i : Nat) : Option Nat :=
  match at? s i with
  | some c =>
    if isAsciiLetter c then
      some (skipWhile s (fun c => !(c == '\t' || c == '\n' || c == '\r' || c == '\x0c' || c == ' ' ||
        c == '/' || c == '>' || c == '\x00')) (i + 1))
    else none
  | none => none

def attrValue (i : Nat) : Option (Nat × String) :=
  let j := skipWhile s isBlank i
  if at? s j != some '=' then none else
  let j := skipWhile s (· == '=') j
  let j := skipWhile s isBlank j
  match at? s j with
  | some '\'' => (findFrom s (· == '\'') (j + 1)).map fun e => (e + 1, slice s j (e + 1))
  | some '"' => (findFrom s (· == '"') (j + 1)).map fun e => (e + 1, slice s j (e + 1))
  | _ =>
    let e := skipWhile s (fun c => c != '>' && !isBlank c) j
    some (e, slice s j e)

def attrAt (i : Nat) : Option (String × Option String × Nat) := do
  let prev ← at? s (i - 1)
  if i == 0 || !(prev == '\'' || prev == '"' || prev == '/' || isBlank prev) then none
  let c ← at? s i
  if isBlank c || c == '/' || c == '>' then none
  let nameEnd := skipWhile s (fun c => !(isBlank c || c == '/' || c == '=' || c == '>')) (i + 1)
  let name := slice s i nameEnd
  match attrValue s nameEnd with
  | some (e, raw) => some (name, some raw, e)
  | none => some (name, none, nameEnd)

def tagExtent (i : Nat) : Nat :=
  match tagNameEnd s (i + 1) with
  | none => i
  | some j =>
    let j := skipWhile s (fun c => isBlank c || c == '/') j
    let rec attrs (fuel j : Nat) : Nat :=
      match fuel with
      | 0 => j
      | fuel + 1 =>
        match attrAt s j with
        | some (_, some _, e) => attrs fuel (skipSeparators s (skipWhile s isBlank e))
        | some (_, none, e) => attrs fuel (skipSeparators s e)
        | none => j
    skipWhile s isBlank (attrs (s.size + 1) j)

end Scanning

def readStartTag (s : Array Char) (i : Nat) : Option (Nat × List Token × Option String) :=
  let j := tagExtent s i
  let endPos : Option Nat := match at? s j with
    | some '>' => some (j + 1)
    | some '/' => if startsAt s "/>" j then some (j + 2) else none
    | none => none
    | some c => if isAsciiLetter c || c == '=' then none else if j > i then some j else some (i + 1)
  endPos.map fun endPos =>
    let nameEnd := (tagNameEnd s (i + 1)).getD (i + 1)
    let name := (slice s (i + 1) nameEnd).toLower
    let rec attrs (fuel k : Nat) (acc : List (String × Option String)) : Nat × List (String × Option String) :=
      match fuel with
      | 0 => (k, acc)
      | fuel + 1 =>
        if k ≥ endPos then (k, acc) else
        match attrAt s k with
        | some (n, raw, e) =>
          let value := raw.map fun v =>
            let v := if v.length ≥ 2 && ((v.startsWith "'" && v.endsWith "'") || (v.startsWith "\"" && v.endsWith "\""))
              then String.ofList ((v.toList.drop 1).dropLast) else v
            if v.isEmpty then v else unescape v
          attrs fuel (skipSeparators s e) (acc ++ [(n.toLower, value)])
        | none => (k, acc)
    let (k, list) := attrs (s.size + 1) (skipSeparators s nameEnd) []
    let rest := (slice s k endPos).trimAscii.toString
    if rest != ">" && rest != "/>" then (endPos, [.text (slice s i endPos)], none)
    else if rest.endsWith "/>" then (endPos, [.empty name list], none)
    else (endPos, [.start name list], if name == "script" || name == "style" then some name else none)
where
  unescape (v : String) : String := unescapeText v

def readEndTag (s : Array Char) (i : Nat) (cdata : Option String) :
    Option (Nat × List Token × Option String) := do
  let gt ← findFrom s (· == '>') (i + 1)
  let gtpos := gt + 1
  let j := skipWhile s isBlank (i + 2)
  let proper : Option String := do
    let c ← at? s j
    if !isAsciiLetter c then none
    let e := skipWhile s (fun c => c.isAlphanum || c == '-' || c == '.' || c == ':' || c == '_') (j + 1)
    let k := skipWhile s isBlank e
    if at? s k == some '>' && k + 1 == gtpos then some (slice s j e) else none
  match proper with
  | some name =>
    let elem := name.toLower
    match cdata with
    | some c => if elem != c then some (gtpos, [.text (slice s i gtpos)], cdata) else some (gtpos, [.close elem], none)
    | none => some (gtpos, [.close elem], none)
  | none =>
    if cdata.isSome then some (gtpos, [.text (slice s i gtpos)], cdata) else
    match tagNameEnd s (i + 2) with
    | some e =>
      let name := (slice s (i + 2) e).toLower
      let close := (findFrom s (· == '>') e).getD gt
      some (close + 1, [.close name], none)
    | none =>
      if startsAt s "</>" i then some (i + 3, [], none)
      else (findFrom s (· == '>') (i + 2)).map fun p => (p + 1, [], none)

def sectionCloseFrom (s : Array Char) (double : Bool) (i : Nat) : Option Nat :=
  let closesAt (p : Nat) : Option Nat :=
    if at? s p != some ']' then none else
    let q := skipWhile s isBlank (p + 1)
    let q := if double then (if at? s q == some ']' then some (skipWhile s isBlank (q + 1)) else none) else some q
    q.bind fun r => if at? s r == some '>' then some (r + 1) else none
  ((List.range (s.size - i)).findSome? fun d => closesAt (i + d))

def markedSectionEnd (s : Array Char) (i : Nat) : Option Nat :=
  let j := i + 3
  if !(at? s j).any isAsciiLetter then (findFrom s (· == '>') j).map (· + 1) else
  let nameEnd := skipWhile s (fun c => c.isAlphanum || c == '-' || c == '_' || c == '.') (j + 1)
  let e := skipWhile s isBlank nameEnd
  if e ≥ s.size then none else
  let name := (slice s j nameEnd).toLower
  if ["temp", "cdata", "ignore", "include", "rcdata"].contains name then sectionCloseFrom s true j
  else if ["if", "else", "endif"].contains name then sectionCloseFrom s false j
  else (findFrom s (· == '>') j).map (· + 1)

def skipMarkup (s : Array Char) (i : Nat) : Option Nat :=
  if startsAt s "<!--" i then
    let rec close (fuel k : Nat) : Option Nat :=
      match fuel with
      | 0 => none
      | fuel + 1 =>
        match findText s "--" k with
        | none => none
        | some d =>
          let e := skipWhile s isBlank (d + 2)
          if at? s e == some '>' then some (e + 1) else close fuel (d + 1)
    close (s.size + 1) (i + 4)
  else if startsAt s "<?" i then (findFrom s (· == '>') (i + 2)).map (· + 1)
  else if startsAt s "<![" i then markedSectionEnd s i
  else if startsAt s "<!doctype" i true then (findFrom s (· == '>') (i + 9)).map (· + 1)
  else (findFrom s (· == '>') (i + 2)).map (· + 1)

def namedAt (s : Array Char) (i : Nat) : Option (String × Nat) := do
  let c ← at? s i
  if !isAsciiLetter c then none
  let e := skipWhile s (fun c => c.isAlphanum || c == '-' || c == '.') (i + 1)
  let _ ← at? s e
  some (slice s i e, e)

def numericAt (s : Array Char) (i : Nat) : Option (String × Nat) := do
  let c ← at? s i
  let (first, digit) : Nat × (Char → Bool) :=
    if c == 'x' || c == 'X' then (i + 1, isHexDigit) else (i, Char.isDigit)
  let e := skipWhile s digit first
  if e == first then none
  let after ← at? s e
  if isHexDigit after then none
  some (slice s i e, e)

def pass (s : Array Char) (finishing : Bool) : Nat → Nat → Option String → List Token → List Token × Nat × Option String
  | 0, i, cdata, acc => (acc, i, cdata)
  | fuel + 1, i, cdata, acc =>
    let n := s.size
    if i ≥ n then (acc, i, cdata) else
    let next : Option Nat := match cdata with
      | some c => findText s ("</" ++ c) i true
      | none => findFrom s (fun c => c == '<' || c == '&') i
    match next with
    | none =>
      if cdata.isSome then (acc, i, cdata)
      else (acc ++ [.text (slice s i n)], n, cdata)
    | some j =>
      let acc := if i < j then acc ++ [.text (slice s i j)] else acc
      let i := j
      if charAt s i == '<' then
        let read : Option (Nat × List Token × Option String) :=
          if (at? s (i + 1)).any isAsciiLetter then readStartTag s i
          else if startsAt s "</" i then readEndTag s i cdata
          else if startsAt s "<!" i || startsAt s "<?" i then (skipMarkup s i).map fun e => (e, [], cdata)
          else if i + 1 < n then some (i + 1, [.text "<"], cdata)
          else none
        match read with
        | some (k, toks, cdata') =>
          if k ≤ i then (acc, i, cdata) else pass s finishing fuel k cdata' (acc ++ toks)
        | none =>
          if !finishing || i + 1 ≥ n && !(startsAt s "</" i || (at? s (i + 1)).any isAsciiLetter ||
              startsAt s "<!" i || startsAt s "<?" i) then (acc, i, cdata)
          else
            let k := match findFrom s (· == '>') (i + 1) with
              | some g => g + 1
              | none => (findFrom s (· == '<') (i + 1)).getD (i + 1)
            pass s finishing fuel k cdata (acc ++ [.text (slice s i k)])
      else if startsAt s "&#" i then
        match numericAt s (i + 2) with
        | some (digits, e) =>
          let k := if charAt s e == ';' then e + 1 else e
          pass s finishing fuel k cdata (acc ++ [.numeric digits])
        | none =>
          if (findFrom s (· == ';') i).isSome then (acc ++ [.text "&#"], i + 2, cdata)
          else (acc, i, cdata)
      else
        match namedAt s (i + 1) with
        | some (name, e) =>
          let k := if charAt s e == ';' then e + 1 else e
          pass s finishing fuel k cdata (acc ++ [.named name])
        | none =>
          if (at? s (i + 1)).any (fun c => isAsciiLetter c || c == '#') then
            -- a reference cut off by the end of the text; the last pass drops its `&` when
            -- only one character follows
            (acc, if finishing && i + 2 == n then i + 1 else i, cdata)
          else if i + 1 < n then pass s finishing fuel (i + 1) cdata (acc ++ [.text "&"])
          else (acc, i, cdata)

def tokenizeIn (rounds : Nat) (text : String) : List Token :=
  let s := text.toList.toArray
  let fuel := 2 * s.size + 2
  let early := (List.replicate rounds ()).foldl (fun (acc : List Token × Nat × Option String) _ =>
      let (t, i, c) := pass s false fuel acc.2.1 acc.2.2 []
      (acc.1 ++ t, i, c)) ([], 0, none)
  let (toks, i, cdata) := early
  let (last, k, c) := pass s true fuel i cdata []
  let rest := if k < s.size && c.isNone then [Token.text (slice s k s.size)] else []
  toks ++ last ++ rest

def tokenize (text : String) : List Token := tokenizeIn 2 text

def linkTargets (html : String) : List String :=
  (tokenizeIn 1 html).filterMap fun
    | .start "a" attrs | .empty "a" attrs =>
      (attrs.reverse.find? (·.1 == "href")).map fun (_, v) => v.getD ""
    | _ => none

end Markup
end Portal
